import RackElevation.Proofs.Link.Frame
import RackElevation.Proofs.Link.Linking

/-
  What resolving links changes

  A device with a note reference in its name loses the brackets of the first one
  and gets the address of its target, whatever its own link was. Any other device
  gets the address of its own link, if it has one that is not empty. The first
  reference is the one with the shortest text before it; since no other
  reference to the same target stands further to the front, it makes no
  difference whether the reference is replaced where it was found or where its
  text occurs first.

  What is proved:
    1. `noteReference?_eq_some_iff`, `noteReference?_eq_none_iff` — which note
       reference is found.
    2. `replaceFirst_append` — the first occurrence of a text is replaced.
    3. `rewritten_of_linkDevice`, `linkDevice_fault_iff_answered` — what becomes of
       a device, and when its links can be resolved.
    4. `link_effect` — what becomes of a set.
-/

namespace RackElevation.Link

open Outcome

/-! ## The first note reference -/

/-- A note reference that stands in a text. -/
def NoteReference.In (n : NoteReference) (s : List Char) : Prop :=
  s = n.before ++ (bracketed n.target ++ n.after) ∧ IsTarget n.target

/-- The note reference of a text with the shortest text before it. -/
structure NoteReference.FirstIn (n : NoteReference) (s : List Char) : Prop where
  stands : n.In s
  first : ∀ m : NoteReference, m.In s → n.before.length ≤ m.before.length

theorem noteAtStart?_bracketed {t : List Char} (h : IsTarget t) (after : List Char) :
    noteAtStart? (bracketed t ++ after) = some (t, after) := by
  rw [noteAtStart?_eq_some_iff]
  exact ⟨by simp [bracketed], h⟩

section Texts

variable {s : List Char} {n m : NoteReference}

theorem in_of_noteReference? (h : noteReference? s = some n) : n.In s := by
  refine ⟨?_, isTarget_of_noteReference? h⟩
  rw [noteReference?_split h]
  simp [bracketed]

/-- Where a note reference stands, one is found there or before. -/
theorem noteReference?_of_in (h : m.In s) :
    ∃ n, noteReference? s = some n ∧ n.before.length ≤ m.before.length := by
  obtain ⟨before, target, after⟩ := m
  obtain ⟨rfl, htarget⟩ := h
  induction before with
  | nil =>
    have hstart := noteAtStart?_bracketed htarget after
    rw [bracketed, List.cons_append] at hstart
    refine ⟨⟨[], target, after⟩, ?_, Nat.le_refl _⟩
    rw [List.nil_append, bracketed, List.cons_append, noteReference?, hstart]
  | cons c before ih =>
    obtain ⟨n, hn, hle⟩ := ih htarget
    rw [List.cons_append, noteReference?]
    cases noteAtStart? (c :: (before ++ (bracketed target ++ after))) with
    | some found => exact ⟨⟨[], found.1, found.2⟩, rfl, Nat.zero_le _⟩
    | none =>
      refine ⟨{ n with before := c :: n.before }, ?_, Nat.succ_le_succ hle⟩
      dsimp only at hn ⊢
      rw [hn]
      rfl

/-- Where a note reference starts, only one does. -/
theorem eq_of_in (hn : n.In s) (hm : m.In s) (hlength : n.before.length = m.before.length) :
    n = m := by
  obtain ⟨hs, htarget⟩ := hn
  obtain ⟨hs', htarget'⟩ := hm
  rw [hs] at hs'
  obtain ⟨hbefore, hrest⟩ := List.append_inj hs' hlength
  have hstart := noteAtStart?_bracketed htarget n.after
  rw [hrest, noteAtStart?_bracketed htarget', Option.some.injEq, Prod.mk.injEq] at hstart
  obtain ⟨before, target, after⟩ := n
  obtain ⟨rfl, rfl⟩ := hstart
  obtain rfl := hbefore
  rfl

/-- The note reference that is found is the first one. -/
theorem noteReference?_eq_some_iff : noteReference? s = some n ↔ n.FirstIn s := by
  have hfound : ∀ {n}, noteReference? s = some n → n.FirstIn s := by
    intro n h
    refine ⟨in_of_noteReference? h, ?_⟩
    intro m hm
    obtain ⟨n', hn', hle⟩ := noteReference?_of_in hm
    rw [h, Option.some.injEq] at hn'
    rwa [hn']
  refine ⟨hfound, ?_⟩
  intro h
  obtain ⟨n', hn', hle⟩ := noteReference?_of_in h.stands
  have hfirst := (hfound hn').stands
  rw [hn', eq_of_in hfirst h.stands (Nat.le_antisymm hle (h.first n' hfirst))]

theorem noteReference?_eq_none_iff : noteReference? s = none ↔ ∀ n : NoteReference, ¬n.In s := by
  constructor
  · intro h n hn
    obtain ⟨n', hn', _⟩ := noteReference?_of_in hn
    rw [h] at hn'
    cases hn'
  · intro h
    rw [Option.eq_none_iff_forall_ne_some]
    exact fun n hn => h n (in_of_noteReference? hn)

end Texts

/-- A text with the first occurrence of another one in it replaced. -/
def replaceFirst (old new : List Char) : List Char → List Char
  | [] => if old = [] then new else []
  | c :: r => if old <+: c :: r then new ++ (c :: r).drop old.length
      else c :: replaceFirst old new r

theorem replaceFirst_append {old new before after : List Char}
    (hfirst : ∀ p q, before ++ (old ++ after) = p ++ (old ++ q) → before.length ≤ p.length) :
    replaceFirst old new (before ++ (old ++ after)) = before ++ (new ++ after) := by
  induction before with
  | nil =>
    rw [List.nil_append, List.nil_append]
    cases htext : old ++ after with
    | nil =>
      obtain ⟨rfl, rfl⟩ := List.append_eq_nil_iff.1 htext
      simp [replaceFirst]
    | cons c r =>
      rw [replaceFirst, ← htext, if_pos (List.prefix_append old after), List.drop_left]
  | cons c before ih =>
    -- an occurrence at the start would have less text before it
    have hnot : ¬old <+: c :: (before ++ (old ++ after)) := by
      intro h
      obtain ⟨q, hq⟩ := h
      have := hfirst [] q hq.symm
      simp at this
    have hrest : replaceFirst old new (before ++ (old ++ after)) = before ++ (new ++ after) := by
      apply ih
      intro p q hpq
      have := hfirst (c :: p) q (by rw [List.cons_append, hpq, List.cons_append])
      simpa using this
    rw [List.cons_append, replaceFirst, if_neg hnot, hrest, List.cons_append]

/-- The text of a note reference occurs nowhere before the first one. -/
theorem NoteReference.FirstIn.replaceFirst_eq {s : List Char} {n : NoteReference}
    (h : n.FirstIn s) :
    replaceFirst (bracketed n.target) n.target s = n.before ++ n.target ++ n.after := by
  rw [h.stands.1, replaceFirst_append, List.append_assoc]
  intro p q hpq
  exact h.first ⟨p, n.target, q⟩ ⟨h.stands.1.trans hpq, h.stands.2⟩

/-! ## One device -/

section Device

variable {f : Resolver} {d e : Device}

/-- The texts of a device that a resolver is given. -/
inductive Asked (d : Device) : List Char → Prop
  | link {href : String} (hhref : d.href = some href) (hne : href ≠ "") : Asked d href.toList
  | note {n : NoteReference} (hn : n.FirstIn d.name.toList) : Asked d n.target

/-- What becomes of a device. -/
inductive Rewritten (f : Resolver) (d : Device) : Device → Prop
  /-- The first note reference in its name loses its brackets and gives the address. -/
  | named {n : NoteReference} {a : List Char} (hn : n.FirstIn d.name.toList)
      (ha : f n.target = .ok a) :
      Rewritten f d { d with
        name := String.ofList (n.before ++ n.target ++ n.after), href := some (String.ofList a) }
  /-- Without one, a link that is not empty gives it. -/
  | linked {href : String} {a : List Char} (hfree : ∀ n : NoteReference, ¬n.In d.name.toList)
      (hhref : d.href = some href) (hne : href ≠ "") (ha : f href.toList = .ok a) :
      Rewritten f d { d with href := some (String.ofList a) }
  /-- Without either, nothing is changed. -/
  | same (hfree : ∀ n : NoteReference, ¬n.In d.name.toList)
      (hhref : d.href = none ∨ d.href = some "") : Rewritten f d d

theorem rewritten_of_linkDevice (h : linkDevice f d = (e, none)) : Rewritten f d e := by
  obtain ⟨href, hhref, ⟨hnone, rfl⟩ | ⟨n, a, hn, ha, rfl⟩⟩ := linkDevice_eq_iff.1 h
  · have hfree := noteReference?_eq_none_iff.1 hnone
    have hsame : d.href = none ∨ d.href = some "" → href = d.href →
        Rewritten f d { d with href := href } := by
      intro hd heq
      rw [heq]
      exact .same hfree hd
    rcases mapM_resolveText_eq_ok_iff.1 hhref with ⟨hd, rfl⟩ | ⟨v, w, hv, rfl, hw⟩
    · exact hsame (.inl hd) hd.symm
    · rcases resolveText_eq_ok_iff.1 hw with ⟨rfl, rfl⟩ | ⟨hne, ha⟩
      · exact hsame (.inr hv) hv.symm
      · have hlinked := Rewritten.linked hfree hv hne ha
        rwa [String.ofList_toList] at hlinked
  · exact .named (noteReference?_eq_some_iff.1 hn) ha

/-- A device is resolved if the resolver answers all that it is asked, and only then. -/
theorem linkDevice_fault_iff_answered :
    (linkDevice f d).2 = none ↔ ∀ x, Asked d x → Succeeds (f x) := by
  have hlinked : (linkDevice f d).2 = none ↔ ∃ e, linkDevice f d = (e, none) :=
    ⟨fun h => ⟨_, linkDevice_eq_linked h⟩, fun h => by rw [h.choose_spec]⟩
  rw [hlinked]
  constructor
  · intro h x hx
    obtain ⟨e, he⟩ := h
    obtain ⟨href, hok, hname⟩ := linkDevice_eq_iff.1 he
    cases hx with
    | link hhref hne => exact succeeds_mapM_resolveText.1 ⟨href, hok⟩ _ hhref hne
    | note hn =>
      rcases hname with ⟨hnone, _⟩ | ⟨m, a, hm, ha, _⟩
      · rw [noteReference?_eq_some_iff.2 hn] at hnone
        cases hnone
      · rw [noteReference?_eq_some_iff.2 hn, Option.some.injEq] at hm
        rw [hm]
        exact ⟨a, ha⟩
  · intro h
    obtain ⟨href, hhref⟩ : Succeeds (d.href.mapM (resolveText f)) :=
      succeeds_mapM_resolveText.2 fun href hmem hne => h _ (.link hmem hne)
    cases hname : noteReference? d.name.toList with
    | none => exact ⟨_, linkDevice_eq_iff.2 ⟨href, hhref, .inl ⟨hname, rfl⟩⟩⟩
    | some n =>
      obtain ⟨a, ha⟩ := h _ (.note (noteReference?_eq_some_iff.1 hname))
      exact ⟨_, linkDevice_eq_iff.2 ⟨href, hhref, .inr ⟨n, a, hname, ha, rfl⟩⟩⟩

end Device

/-! ## Sets -/

theorem keepsPlace_linked (f : Resolver) : KeepsPlace (linked f) := by
  have hframe : ∀ d, linked f d = { d with name := (linked f d).name, href := (linked f d).href } :=
    fun d => linkDevice_frame d
  constructor
  · intro d
    rw [hframe]
  · intro d
    rw [hframe]

/-- If the resolver answers all that it is asked, every device becomes what its own name and link
say, and nothing else is changed: neither what the racks and devices are apart from names and links,
nor the units that the devices take, nor the height of the drawing. -/
theorem link_effect {f : Resolver} {s : RackSet}
    (h : ∀ d ∈ s.devices, ∀ x, Asked d x → Succeeds (f x)) :
    ∃ t, link f s = .ok t ∧ s.SameFrame t ∧ List.Forall₂ (Rewritten f) s.devices t.devices ∧
      (∀ d ∈ s.devices, ∀ n : NoteReference, n.FirstIn d.name.toList →
        n.before ++ n.target ++ n.after =
          replaceFirst (bracketed n.target) n.target d.name.toList) ∧
      t.racks.map (fun r => r.layout.map fun p => (p.base, p.top)) =
        s.racks.map (fun r => r.layout.map fun p => (p.base, p.top)) ∧
      t.canvasHeight = s.canvasHeight := by
  have hlink : link f s = .ok (s.mapDevices (linked f)) :=
    link_eq_ok_iff.2 ⟨fun d hd => linkDevice_fault_iff_answered.2 (h d hd), rfl⟩
  refine ⟨_, hlink, ?_, forall₂_of_link hlink fun d e => rewritten_of_linkDevice,
    fun d _ n hn => hn.replaceFirst_eq.symm, ?_, ?_⟩
  · rw [eq_linkSet_of_link hlink]
    exact linkSet_frame s
  · rw [RackSet.mapDevices, List.map_map]
    apply List.map_congr_left
    intro r _
    rw [Function.comp_apply, r.layout_mapDevices (keepsPlace_linked f), List.map_map]
    rfl
  · apply RackSet.canvasHeight_congr
    rw [RackSet.mapDevices, List.map_map]
    rfl

/-- A resolver that refuses the empty text only. -/
def tagged : Resolver := fun link =>
  if link = [] then .error .brackets else .ok ("n:".toList ++ link)

/-- Devices with brackets that overlap, with two references to one note, and with an empty link. -/
def scribbled : RackSet :=
  { racks := [{ devices := [{ kind := "server", name := "[[[[a]]]]", href := some "x" },
      { kind := "ups", name := "[[b[[b]] [[b]]", position := some 9 },
      { kind := "pdu", name := "[[]]", href := some "" }] }] }

theorem link_effect_scribbled :
    (∀ d ∈ scribbled.devices, ∀ x, Asked d x → Succeeds (tagged x)) ∧
    ∃ t, link tagged scribbled = .ok t ∧ scribbled.SameFrame t ∧
      List.Forall₂ (Rewritten tagged) scribbled.devices t.devices ∧
      t.devices.map (fun d => (d.name, d.href)) =
        [("[[a]]", some "n:[[a"), ("b[[b [[b]]", some "n:b[[b"), ("[[]]", some "")] := by
  have hasked : ∀ d ∈ scribbled.devices, ∀ x, Asked d x → Succeeds (tagged x) := by
    intro d _ x hx
    have hne : x ≠ [] := by
      cases hx with
      | link _ hne => exact fun h => hne (String.toList_eq_nil_iff.1 h)
      | note hn => exact hn.stands.2.1
    exact ⟨_, if_neg hne⟩
  obtain ⟨t, ht, hframe, hdevices, _⟩ := link_effect hasked
  refine ⟨hasked, t, ht, hframe, hdevices, ?_⟩
  have hrun : (link tagged scribbled).map (fun t => t.devices.map fun d => (d.name, d.href)) =
      .ok [("[[a]]", some "n:[[a"), ("b[[b [[b]]", some "n:b[[b"), ("[[]]", some "")] := by
    decide +kernel
  rw [ht] at hrun
  exact Except.ok.inj hrun

end RackElevation.Link
