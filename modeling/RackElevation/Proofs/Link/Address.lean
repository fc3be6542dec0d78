import RackElevation.Proofs.Link.Resolver
import RackElevation.Proofs.Uri.Percent

/-
  Addresses of links

  A link is a note reference in brackets, a reference with a scheme of its own,
  or any other text, which is the target of a note too. A reference with a scheme
  is its own address, to the letter. The address of a note is the base and its
  encoded target, from which the target can be read back; so nothing of a target
  is lost, and under one base two notes share an address only if they share their
  target.

  What is proved:
    1. `resolver_of_denotes` — the address of a note.
    2. `resolver_stable` — links that are their own addresses.
    3. `note_address_faithful` — what can be read from the address of a note.
-/

namespace RackElevation.Link

open Uri

/-- The target that a link to a note denotes: what its brackets hold, or else the link itself, if it
is read as a reference without a scheme. -/
inductive Denotes : List Char → List Char → Prop
  | inside {t : List Char} (ht : IsTarget t) : Denotes (bracketed t) t
  | whole {link : List Char} (hnote : ∀ t, IsTarget t → link ≠ bracketed t)
      (hscheme : scheme link = .ok []) : Denotes link link

/-- A link that is no note reference and has a scheme of its own. -/
def HasScheme (link : List Char) : Prop :=
  (∀ t, IsTarget t → link ≠ bracketed t) ∧ ∃ v, v ≠ [] ∧ scheme link = .ok v

section Addresses

variable {base link t a : List Char}

theorem resolver_of_denotes (h : Denotes link t) :
    resolver base link = .ok (base ++ Percent.encode t) := by
  cases h with
  | inside ht => exact resolver_bracketed ht
  | whole hnote hscheme =>
    obtain ⟨hproper, hown⟩ := scheme_eq_ok_iff.1 hscheme
    rw [resolver_eq_ok_iff (wholeNote?_eq_none_iff.2 hnote), if_pos hown.symm]
    exact ⟨hproper, rfl⟩

theorem resolver_of_hasScheme (h : HasScheme link) : resolver base link = .ok link := by
  obtain ⟨hnote, v, hne, hscheme⟩ := h
  obtain ⟨hproper, rfl⟩ := scheme_eq_ok_iff.1 hscheme
  exact (resolver_eq_self_iff (wholeNote?_eq_none_iff.2 hnote) hne).2 ⟨hproper, rfl⟩

/-- A link that is resolved denotes a note or has a scheme. -/
theorem denotes_or_hasScheme (h : resolver base link = .ok a) :
    (∃ t, Denotes link t) ∨ HasScheme link := by
  cases hwhole : wholeNote? link with
  | some t =>
    obtain ⟨rfl, ht⟩ := wholeNote?_eq_some_iff.1 hwhole
    exact .inl ⟨t, .inside ht⟩
  | none =>
    have hnote := wholeNote?_eq_none_iff.1 hwhole
    obtain ⟨hproper, _⟩ := (resolver_eq_ok_iff hwhole).1 h
    have hscheme : scheme link = .ok (ownScheme link) := scheme_eq_ok_iff.2 ⟨hproper, rfl⟩
    by_cases hown : ownScheme link = []
    · rw [hown] at hscheme
      exact .inl ⟨link, .whole hnote hscheme⟩
    · exact .inr ⟨hnote, _, hown, hscheme⟩

end Addresses

/-- Under a base with a scheme, an address that can be resolved is its own address; and under any
base so is a link with a scheme that is no note reference. -/
theorem resolver_stable (base : List Char) :
    (Schemed base → ∀ link a, resolver base link = .ok a →
      ∀ b, resolver base a = .ok b ↔ Proper a ∧ b = a) ∧
    ∀ link v, scheme link = .ok v → v ≠ [] → (∀ t, IsTarget t → link ≠ bracketed t) →
      resolver base link = .ok link := by
  constructor
  · intro hbase link a h b
    obtain ⟨hnote, hscheme⟩ := address_schemed hbase h
    exact resolver_eq_self_iff hnote hscheme
  · intro link v hscheme hne hnote
    exact resolver_of_hasScheme ⟨hnote, v, hne, hscheme⟩

/-- A scheme is found through tabs and line breaks, which stay in the address. -/
theorem resolver_stable_tabbed :
    Schemed "\tno\ntes:".toList ∧
    resolver "\tno\ntes:".toList "[[sw1:uplink]]".toList = .ok "\tno\ntes:sw1%3Auplink".toList ∧
    resolver "\tno\ntes:".toList "\tno\ntes:sw1%3Auplink".toList =
      .ok "\tno\ntes:sw1%3Auplink".toList ∧
    scheme " S\tsh:[[x]]\n".toList = .ok "ssh".toList ∧
    resolver "notes".toList " S\tsh:[[x]]\n".toList = .ok " S\tsh:[[x]]\n".toList := by
  have hbase : Schemed "\tno\ntes:".toList := ⟨"notes".toList, [], by decide, by decide⟩
  have hfirst : resolver "\tno\ntes:".toList "[[sw1:uplink]]".toList =
      .ok "\tno\ntes:sw1%3Auplink".toList := by decide +kernel
  have hproper : Proper "\tno\ntes:sw1%3Auplink".toList :=
    (scheme_eq_ok_iff (v := "notes".toList)).1 (by decide +kernel) |>.1
  have hscheme : scheme " S\tsh:[[x]]\n".toList = .ok "ssh".toList := by decide +kernel
  have hnote : ∀ t, IsTarget t → " S\tsh:[[x]]\n".toList ≠ bracketed t :=
    wholeNote?_eq_none_iff.1 (by decide)
  obtain ⟨hstable, _⟩ := resolver_stable "\tno\ntes:".toList
  obtain ⟨_, hkept⟩ := resolver_stable "notes".toList
  exact ⟨hbase, hfirst, (hstable hbase _ _ hfirst _).2 ⟨hproper, rfl⟩, hscheme,
    hkept _ _ hscheme (by decide) hnote⟩

/-- Every link that is resolved denotes a target or is its own address. The address of a target is
the base and an encoded text that stands for the target, whatever characters it has; so links have
the same address exactly if they denote the same target. -/
theorem note_address_faithful (base : List Char) :
    (∀ link a, resolver base link = .ok a →
      (∃ t, Denotes link t) ∨ HasScheme link ∧ a = link) ∧
    (∀ link t, Denotes link t → ∃ q, resolver base link = .ok (base ++ q) ∧
      Percent.Encoded q ∧ Percent.decodeText q = .ok t) ∧
    ∀ link link' t t', Denotes link t → Denotes link' t' →
      (resolver base link = resolver base link' ↔ t = t') := by
  refine ⟨?_, ?_, ?_⟩
  · intro link a h
    refine (denotes_or_hasScheme h).imp_right fun hscheme => ⟨hscheme, ?_⟩
    rw [resolver_of_hasScheme hscheme] at h
    exact (Except.ok.inj h).symm
  · intro link t h
    exact ⟨_, resolver_of_denotes h, Percent.encoded_encode t, Percent.decodeText_encode t⟩
  · intro link link' t t' h h'
    rw [resolver_of_denotes h, resolver_of_denotes h', Except.ok.injEq, List.append_cancel_left_eq,
      Percent.encode_inj]

/-- A target that looks encoded already, in brackets and without, and the one it would stand for. -/
theorem note_address_faithful_escaped :
    Denotes "[[Wéb%201/#]]".toList "Wéb%201/#".toList ∧
    Denotes "Wéb%201/#".toList "Wéb%201/#".toList ∧ Denotes "Wéb 1/#".toList "Wéb 1/#".toList ∧
    resolver "notes:".toList "[[Wéb%201/#]]".toList =
      resolver "notes:".toList "Wéb%201/#".toList ∧
    resolver "notes:".toList "Wéb%201/#".toList ≠ resolver "notes:".toList "Wéb 1/#".toList ∧
    ∃ q, resolver "notes:".toList "Wéb 1/#".toList = .ok ("notes:".toList ++ q) ∧
      Percent.decodeText q = .ok "Wéb 1/#".toList := by
  have hinside : Denotes "[[Wéb%201/#]]".toList "Wéb%201/#".toList :=
    .inside (t := "Wéb%201/#".toList) (by decide)
  have hescaped : Denotes "Wéb%201/#".toList "Wéb%201/#".toList :=
    .whole (wholeNote?_eq_none_iff.1 (by decide)) (by decide +kernel)
  have hplain : Denotes "Wéb 1/#".toList "Wéb 1/#".toList :=
    .whole (wholeNote?_eq_none_iff.1 (by decide)) (by decide +kernel)
  obtain ⟨_, hread, hsame⟩ := note_address_faithful "notes:".toList
  obtain ⟨q, hq, _, htarget⟩ := hread _ _ hplain
  exact ⟨hinside, hescaped, hplain, (hsame _ _ _ _ hinside hescaped).2 rfl,
    fun h => absurd ((hsame _ _ _ _ hescaped hplain).1 h) (by decide), q, hq, htarget⟩

end RackElevation.Link
