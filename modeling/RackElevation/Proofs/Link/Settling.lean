import RackElevation.Proofs.Link.Linking

/-
  Resolving the links again

  A note reference in a name is used up: its brackets go and its target stays,
  which can put together another reference. So resolving once is not always
  enough. Each time a reference is found, its name loses four characters, and
  under a base with a scheme an address that was given once is given again. The
  links of a set are settled when its longest name has no four characters left
  to lose.

  What is proved:
    1. `linkDevice_length` — what one application does to the name of a device.
    2. `settled_of_linkDevice`, `eq_self_of_settled` — what it does to an address
       that an application has given.
    3. `reached_linkDevice`, `reached_linkTimes` — what holds after a number of
       applications, step and run.
    4. `link_settles` — applications come to an end.
-/

namespace RackElevation.Link

open Outcome

/-- The set after a resolver has been applied to it a number of times. -/
def linkTimes (f : Resolver) (s : RackSet) : Nat → Except Uri.Fault RackSet
  | 0 => .ok s
  | n + 1 => linkTimes f s n >>= link f

/-- No name has a note reference. -/
def NoteFree (s : RackSet) : Prop := ∀ d ∈ s.devices, noteReference? d.name.toList = none

/-- One device has become the other, which has lost the brackets of a note reference if there was
one in its name. -/
structure Unwrapped (d e : Device) : Prop where
  free : noteReference? d.name.toList = none → e.name = d.name
  note : noteReference? d.name.toList ≠ none → e.name.length + 4 = d.name.length

/-- The address of a device is not changed by another application. -/
def Settled (f : Resolver) (d : Device) : Prop :=
  ∀ h a, d.href = some h → resolveText f h = .ok a → a = h

/-- What is known of a device after `n` applications to names of up to `longest` characters. -/
structure Reached (f : Resolver) (longest n : Nat) (d : Device) : Prop where
  settled : 1 ≤ n → Settled f d
  short : noteReference? d.name.toList ≠ none → d.name.length + 4 * n ≤ longest

/-! ## One device -/

section Device

variable {f : Resolver} {base : List Char} {d e : Device} {longest n : Nat}

theorem NoteReference.length_eq {s : List Char} {m : NoteReference}
    (h : noteReference? s = some m) :
    (m.before ++ m.target ++ m.after).length + 4 = s.length := by
  have hsplit := congrArg List.length (noteReference?_split h)
  simp only [List.length_append, List.length_cons] at hsplit ⊢
  omega

theorem linkDevice_length (h : linkDevice f d = (e, none)) : Unwrapped d e := by
  obtain ⟨href, _, ⟨hnone, rfl⟩ | ⟨m, a, hm, _, rfl⟩⟩ := linkDevice_eq_iff.1 h
  · exact ⟨fun _ => rfl, fun hsome => absurd hnone hsome⟩
  · refine ⟨fun hnone => ?_, fun _ => ?_⟩
    · rw [hm] at hnone
      cases hnone
    · rw [String.length_ofList, NoteReference.length_eq hm, String.length_toList]

theorem resolveText_resolver (hbase : Uri.Schemed base) {link : List Char} {w a : String}
    (h : resolver base link = .ok w.toList) (hagain : resolveText (resolver base) w = .ok a) :
    a = w := by
  rcases resolveText_eq_ok_iff.1 hagain with ⟨rfl, rfl⟩ | ⟨_, ha⟩
  · rfl
  · exact String.toList_inj.1 (resolver_resolver hbase h ha)

/-- An address that an application has given is not changed by the next. -/
theorem settled_of_linkDevice (hbase : Uri.Schemed base)
    (h : linkDevice (resolver base) d = (e, none)) : Settled (resolver base) e := by
  intro w a hw ha
  obtain ⟨href, hhref, ⟨_, rfl⟩ | ⟨m, address, _, hm, rfl⟩⟩ := linkDevice_eq_iff.1 h
  · rcases mapM_resolveText_eq_ok_iff.1 hhref with ⟨_, hnone⟩ | ⟨v, w', _, hsome, hv⟩
    · exact absurd (hw.symm.trans hnone) (by simp)
    · cases hw.symm.trans hsome
      rcases resolveText_eq_ok_iff.1 hv with ⟨_, rfl⟩ | ⟨_, hv⟩
      · cases ha
        rfl
      · exact resolveText_resolver hbase hv ha
  · cases hw
    exact resolveText_resolver hbase (by rwa [String.toList_ofList]) ha

/-- A device without a note reference, whose address is settled, stays as it is. -/
theorem eq_self_of_settled (hs : Settled f d) (hfree : noteReference? d.name.toList = none)
    (h : linkDevice f d = (e, none)) : e = d := by
  obtain ⟨href, hhref, ⟨_, rfl⟩ | ⟨m, _, hm, _⟩⟩ := linkDevice_eq_iff.1 h
  · have hsame : href = d.href := by
      rcases mapM_resolveText_eq_ok_iff.1 hhref with ⟨hnone, rfl⟩ | ⟨v, w, hv, rfl, hw⟩
      · exact hnone.symm
      · rw [hv, hs v w hv hw]
    rw [hsame]
  · exact absurd (hfree.symm.trans hm) (by simp)

/-- One more application. -/
theorem reached_linkDevice (hbase : Uri.Schemed base) (hd : Reached (resolver base) longest n d)
    (h : linkDevice (resolver base) d = (e, none)) : Reached (resolver base) longest (n + 1) e := by
  have hname := linkDevice_length h
  refine ⟨fun _ => settled_of_linkDevice hbase h, fun he => ?_⟩
  -- a name without a reference does not get one, so there was one before
  have hnote : noteReference? d.name.toList ≠ none := by
    intro hfree
    rw [hname.free hfree] at he
    exact he hfree
  have hshort := hd.short hnote
  have hlength := hname.note hnote
  omega

end Device

/-! ## Sets -/

section Sets

variable {f : Resolver} {base : List Char} {s t u : RackSet} {n : Nat}

theorem linkTimes_succ_eq_ok_iff : linkTimes f s (n + 1) = .ok u ↔
    ∃ t, linkTimes f s n = .ok t ∧ link f t = .ok u := bind_eq_ok

/-- A set without note references, whose addresses are settled, stays as it is. -/
theorem link_eq_self (hs : ∀ d ∈ s.devices, Settled f d) (hfree : NoteFree s)
    (h : link f s = .ok t) : t = s := by
  obtain ⟨hall, rfl⟩ := link_eq_ok_iff.1 h
  apply RackSet.mapDevices_eq_self
  intro d hd
  exact eq_self_of_settled (hs d hd) (hfree d hd) (linkDevice_eq_linked (hall d hd))

/-- What holds after any number of applications. -/
theorem reached_linkTimes (hbase : Uri.Schemed base) (h : linkTimes (resolver base) s n = .ok t) :
    ∀ d ∈ t.devices, Reached (resolver base) s.longestName n d := by
  induction n generalizing t with
  | zero =>
    cases h
    intro d hd
    refine ⟨fun hpos => absurd hpos (by omega), fun _ => ?_⟩
    simpa using RackSet.length_le_longestName hd
  | succ n ih =>
    obtain ⟨t', ht', hlink⟩ := linkTimes_succ_eq_ok_iff.1 h
    obtain ⟨hall, rfl⟩ := link_eq_ok_iff.1 hlink
    rw [RackSet.devices_mapDevices, List.forall_mem_map]
    intro d hd
    exact reached_linkDevice hbase (ih ht' d hd) (linkDevice_eq_linked (hall d hd))

theorem noteFree_linkTimes (hbase : Uri.Schemed base)
    (h : linkTimes (resolver base) s (s.longestName / 4 + 1) = .ok t) : NoteFree t := by
  intro d hd
  by_contra hnote
  have hshort := (reached_linkTimes hbase h d hd).short hnote
  omega

theorem linkTimes_add (ht : linkTimes f s n = .ok t) (hfix : link f t = .ok t) (k : Nat) :
    linkTimes f s (n + k) = .ok t := by
  induction k with
  | zero => exact ht
  | succ k ih => exact linkTimes_succ_eq_ok_iff.2 ⟨t, ih, hfix⟩

/-- Each application takes four characters from each name with a note reference; once there is none
left, another application changes nothing; and it takes at most as many applications until then as
the longest name has groups of four characters, and one. -/
theorem link_settles (hbase : Uri.Schemed base) :
    (∀ s t, link (resolver base) s = .ok t → List.Forall₂ Unwrapped s.devices t.devices) ∧
    (∀ s n t u, linkTimes (resolver base) s (n + 1) = .ok t → NoteFree t →
      link (resolver base) t = .ok u → u = t) ∧
    (∀ s t u, link (resolver base) s = .ok t → NoteFree t → link (resolver base) t = .ok u →
      u = t) ∧
    ∀ s u, linkTimes (resolver base) s (s.longestName / 4 + 2) = .ok u →
      ∀ n, s.longestName / 4 + 1 ≤ n → linkTimes (resolver base) s n = .ok u := by
  have hstays : ∀ s n t u, linkTimes (resolver base) s (n + 1) = .ok t → NoteFree t →
      link (resolver base) t = .ok u → u = t := by
    intro s n t u ht hfree hu
    refine link_eq_self (fun d hd => ?_) hfree hu
    exact (reached_linkTimes hbase ht d hd).settled (by omega)
  refine ⟨fun s t h => forall₂_of_link h fun d e => linkDevice_length, hstays, ?_, ?_⟩
  · exact fun s t u ht => hstays s 0 t u (linkTimes_succ_eq_ok_iff.2 ⟨s, rfl, ht⟩)
  · intro s u hu n hn
    obtain ⟨t, ht, hlink⟩ := linkTimes_succ_eq_ok_iff.1 hu
    obtain rfl := hstays s _ t u ht (noteFree_linkTimes hbase ht) hlink
    obtain ⟨k, rfl⟩ := Nat.exists_eq_add_of_le hn
    exact linkTimes_add ht hlink k

/-- A rack with one device. -/
def lone (name : String) (href : Option String) : RackSet :=
  { racks := [{ devices := [{ kind := "server", name := name, href := href }] }] }

/-- Two pairs of brackets take two applications. -/
theorem link_settles_nested :
    Uri.Schemed "notes:".toList ∧
    linkTimes (resolver "notes:".toList) (lone "[[[[a]]]]" none) 1 =
      .ok (lone "[[a]]" (some "notes:%5B%5Ba")) ∧
    List.Forall₂ Unwrapped (lone "[[[[a]]]]" none).devices
      (lone "[[a]]" (some "notes:%5B%5Ba")).devices ∧
    ∀ n, 3 ≤ n → linkTimes (resolver "notes:".toList) (lone "[[[[a]]]]" none) n =
      .ok (lone "a" (some "notes:a")) := by
  have hbase : Uri.Schemed "notes:".toList := ⟨"notes".toList, [], by decide, by decide⟩
  obtain ⟨hnames, _, _, hend⟩ := link_settles hbase
  have honce : link (resolver "notes:".toList) (lone "[[[[a]]]]" none) =
      .ok (lone "[[a]]" (some "notes:%5B%5Ba")) := by decide +kernel
  refine ⟨hbase, honce, hnames _ _ honce, ?_⟩
  exact hend (lone "[[[[a]]]]" none) _ (by decide +kernel)

end Sets

end RackElevation.Link
