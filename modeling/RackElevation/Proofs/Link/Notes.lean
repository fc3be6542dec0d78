import RackElevation.Proofs.Link.Linking

/-
  Notes as links and in names

  A note reference is written as the link of a device or in its name. As a link
  it is resolved in its brackets, so its address is always that of the note. In a
  name the brackets go first, and what is left is resolved like any link: a
  target with a scheme becomes the address itself, and one that is no proper
  reference is a fault. Only for the other targets does it make no difference
  where the reference is written.

  What is proved:
    1. `append_encode_ne` — a target with a scheme is not the address of its note.
    2. `linkDevice_of_link`, `linkDevice_of_name` — the address of a device that
       refers to a note in one place or the other.
    3. `note_alike_iff` — when the two addresses are the same.
    4. `uplink_unlike` — a target for which they are not.
-/

namespace RackElevation

open Uri Outcome

theorem Utf8.length_le_encode (s : List Char) : s.length ≤ (Utf8.encode s).length := by
  induction s with
  | nil => simp
  | cons c s ih =>
    have hsize := Char.utf8Size_pos c
    simp only [Utf8.encode, List.flatMap_cons, List.length_append, List.length_cons,
      String.length_utf8EncodeChar] at ih ⊢
    omega

namespace Percent

theorem encodeByte_pos (b : UInt8) : 1 ≤ (encodeByte b).length := by
  rw [encodeByte]
  split <;> simp

theorem length_le_encode (s : List Char) : s.length ≤ (encode s).length := by
  have hbytes : ∀ bs : List UInt8, bs.length ≤ (bs.flatMap encodeByte).length := by
    intro bs
    induction bs with
    | nil => simp
    | cons b bs ih =>
      have hbyte := encodeByte_pos b
      simp only [List.flatMap_cons, List.length_append, List.length_cons]
      omega
  calc s.length ≤ (Utf8.encode s).length := Utf8.length_le_encode s
    _ ≤ (encode s).length := hbytes _

end Percent

namespace Link

variable {base t : List Char}

/-- The address of a target that stands in a name. -/
def nameAddress (base t : List Char) : List Char :=
  if ownScheme t = [] then base ++ Percent.encode t else t

/-- A device that is linked to a note, and has no other one in its name. -/
def LinksNote (t : List Char) (d : Device) : Prop :=
  d.href = some (String.ofList (bracketed t)) ∧ noteReference? d.name.toList = none

/-- A device that is named by a note; its own link, if it has one, can be resolved. -/
def NamesNote (base t : List Char) (d : Device) : Prop :=
  d.name.toList = bracketed t ∧ ∀ href ∈ d.href, Succeeds (resolveText (resolver base) href)

/-- A target with a scheme is not the address of its note. -/
theorem append_encode_ne (h : ownScheme t ≠ []) : base ++ Percent.encode t ≠ t := by
  intro heq
  have hlength : base.length + (Percent.encode t).length = t.length := by
    rw [← List.length_append, heq]
  have hle := Percent.length_le_encode t
  -- the address is no shorter than the target, so nothing would be encoded, not even the colon
  have hbase : base = [] := List.length_eq_zero_iff.1 (by omega)
  rw [hbase, List.nil_append] at heq
  have hmem : ':' ∈ Percent.encode t := by
    rw [heq]
    exact mem_of_ownScheme h
  exact absurd (Percent.isEncoded_encode hmem) (by decide)

theorem linkDevice_of_link (ht : IsTarget t) {d : Device} (h : LinksNote t d) :
    linkDevice (resolver base) d =
      ({ d with href := some (String.ofList (base ++ Percent.encode t)) }, none) := by
  apply linkDevice_of_address h.1 (ofList_ne_empty (List.cons_ne_nil _ _)) h.2
  rw [String.toList_ofList, resolver_bracketed ht]

theorem linkDevice_of_name (ht : IsTarget t) {d e : Device} (h : NamesNote base t d) :
    linkDevice (resolver base) d = (e, none) ↔ Proper t ∧ e =
      { d with name := String.ofList t, href := some (String.ofList (nameAddress base t)) } := by
  obtain ⟨hname, hown⟩ := h
  have hnote : noteReference? d.name.toList = some ⟨[], t, []⟩ := by
    rw [hname, noteReference?_bracketed ht]
  have hresolved : ∀ a, resolver base t = .ok a ↔ Proper t ∧ a = nameAddress base t :=
    fun a => resolver_eq_ok_iff (wholeNote?_of_isTarget ht)
  have hhref : ∃ href, d.href.mapM (resolveText (resolver base)) = .ok href := by
    cases hd : d.href with
    | none => exact ⟨none, rfl⟩
    | some href =>
      obtain ⟨v, hv⟩ := hown href hd
      exact ⟨some v, mapM_resolveText_eq_ok_iff.2 (.inr ⟨href, v, rfl, rfl, hv⟩)⟩
  rw [linkDevice_eq_iff]
  constructor
  · intro h
    obtain ⟨_, _, h⟩ := h
    rcases h with ⟨hnone, _⟩ | ⟨n, a, hn, ha, rfl⟩
    · rw [hnote] at hnone
      cases hnone
    · rw [hnote] at hn
      cases hn
      obtain ⟨hproper, rfl⟩ := (hresolved a).1 ha
      exact ⟨hproper, by simp⟩
  · intro h
    obtain ⟨hproper, rfl⟩ := h
    obtain ⟨href, hhref⟩ := hhref
    refine ⟨href, hhref, .inr ⟨⟨[], t, []⟩, nameAddress base t, hnote, ?_, by simp⟩⟩
    exact (hresolved _).2 ⟨hproper, rfl⟩

/-- A reference to a note has the address of the note as a link, and in a name exactly if its
target is a proper reference without a scheme. In every set each device gets its own address. -/
theorem note_alike_iff (ht : IsTarget t) :
    (∀ d, LinksNote t d → linkDevice (resolver base) d =
      ({ d with href := some (String.ofList (base ++ Percent.encode t)) }, none)) ∧
    (∀ d e, NamesNote base t d → LinksNote t e →
      ((∃ d' e', linkDevice (resolver base) d = (d', none) ∧
          linkDevice (resolver base) e = (e', none) ∧ d'.href = e'.href) ↔
        Proper t ∧ ownScheme t = [])) ∧
    ∀ s u, link (resolver base) s = .ok u → List.Forall₂ (fun d e =>
      (LinksNote t d → e.href = some (String.ofList (base ++ Percent.encode t))) ∧
      (NamesNote base t d →
        e.name = String.ofList t ∧ e.href = some (String.ofList (nameAddress base t))))
      s.devices u.devices := by
  refine ⟨fun d h => linkDevice_of_link ht h, ?_, ?_⟩
  · intro d e hd he
    constructor
    · intro h
      obtain ⟨d', e', hd', he', hhref⟩ := h
      obtain ⟨hproper, rfl⟩ := (linkDevice_of_name ht hd).1 hd'
      rw [linkDevice_of_link ht he, Prod.mk.injEq] at he'
      obtain ⟨rfl, _⟩ := he'
      refine ⟨hproper, ?_⟩
      by_contra hscheme
      simp only [nameAddress, if_neg hscheme, Option.some.injEq, String.ofList_inj] at hhref
      exact append_encode_ne hscheme hhref.symm
    · intro h
      obtain ⟨hproper, hscheme⟩ := h
      refine ⟨_, _, (linkDevice_of_name ht hd).2 ⟨hproper, rfl⟩, linkDevice_of_link ht he, ?_⟩
      simp [nameAddress, hscheme]
  · intro s u h
    refine forall₂_of_link h fun d e hde => ⟨fun hlink => ?_, fun hname => ?_⟩
    · rw [linkDevice_of_link ht hlink, Prod.mk.injEq] at hde
      rw [← hde.1]
    · obtain ⟨_, rfl⟩ := (linkDevice_of_name ht hname).1 hde
      exact ⟨rfl, rfl⟩

/-- A rack with a device that is named by a note and one that is linked to it. -/
def noted (note : String) : RackSet :=
  { racks := [{ devices :=
      [{ kind := "server", name := note }, { kind := "server", href := some note }] }] }

theorem note_alike_iff_bracket :
    ∃ d e d' e', IsTarget "[Web 1".toList ∧ NamesNote "notes:".toList "[Web 1".toList d ∧
      LinksNote "[Web 1".toList e ∧ noted "[[[Web 1]]" = { racks := [{ devices := [d, e] }] } ∧
      link (resolver "notes:".toList) (noted "[[[Web 1]]") =
        .ok { racks := [{ devices := [d', e'] }] } ∧
      d'.href = e'.href ∧
      e'.href = some (String.ofList ("notes:".toList ++ Percent.encode "[Web 1".toList)) := by
  have ht : IsTarget "[Web 1".toList := by decide
  have hd : NamesNote "notes:".toList "[Web 1".toList { kind := "server", name := "[[[Web 1]]" } :=
    ⟨by decide, fun _ h => nomatch h⟩
  have he : LinksNote "[Web 1".toList { kind := "server", href := some "[[[Web 1]]" } :=
    ⟨by decide, by decide⟩
  have hscheme : scheme "[Web 1".toList = .ok [] := by decide +kernel
  obtain ⟨_, halike, hset⟩ := @note_alike_iff "notes:".toList _ ht
  obtain ⟨hproper, hown⟩ := scheme_eq_ok_iff.1 hscheme
  obtain ⟨d', e', hd', he', hhref⟩ := (halike _ _ hd he).2 ⟨hproper, hown.symm⟩
  have hrun : link (resolver "notes:".toList) (noted "[[[Web 1]]") =
      .ok { racks := [{ devices := [d', e'] }] } := by
    apply link_eq_ok_iff.2
    constructor
    · show ∀ d ∈ [_, _], _
      rw [List.forall_mem_cons, List.forall_mem_singleton, hd', he']
      exact ⟨rfl, rfl⟩
    · show _ = RackSet.mk _ _ [Rack.mk _ _ [linked _ _, linked _ _]]
      rw [linked, linked, hd', he']
      rfl
  have hlast := List.forall₂_cons.1 (List.forall₂_cons.1 (hset _ _ hrun)).2
  exact ⟨_, _, d', e', ht, hd, he, rfl, hrun, hhref, hlast.1.1 he⟩

/-- A target that reads as a reference with a scheme. -/
theorem uplink_unlike :
    IsTarget "sw1:uplink".toList ∧
    ∃ d e, link (resolver "notes://open?file=".toList) (noted "[[sw1:uplink]]") =
        .ok { racks := [{ devices := [d, e] }] } ∧
      e.href =
        some (String.ofList ("notes://open?file=".toList ++ Percent.encode "sw1:uplink".toList)) ∧
      d.href ≠ e.href := by
  refine ⟨by decide, { kind := "server", name := "sw1:uplink", href := some "sw1:uplink" },
    { kind := "server", href := some "notes://open?file=sw1%3Auplink" }, ?_, ?_, by decide⟩
  · decide +kernel
  · decide +kernel

end Link

end RackElevation
