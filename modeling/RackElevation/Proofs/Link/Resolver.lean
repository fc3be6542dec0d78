import RackElevation.Link
import RackElevation.Proofs.Uri.Scheme

/-
  Resolving one link

  A link that is a note reference as a whole is resolved under the base, whatever
  its target looks like. Any other link is read as a reference: it fails if that
  is not proper, stays if it has a scheme, and is a note otherwise.

  What is proved:
    1. `wholeNote?_eq_some_iff`, `noteReference?_bracketed` — a target in brackets
       is found, on its own and in a name.
    2. `resolver_bracketed`, `resolver_eq_ok_iff` — the address of a link.
    3. `address_schemed`, `resolver_resolver` — under a base with a scheme an
       address has one too, and is its own address.
-/

namespace RackElevation.Link

open Text Uri Outcome

/-- Text that can be the target of a note reference. -/
def IsTarget (t : List Char) : Prop := t ≠ [] ∧ ']' ∉ t

instance (t : List Char) : Decidable (IsTarget t) := inferInstanceAs (Decidable (t ≠ [] ∧ ']' ∉ t))

/-- The note reference to a target. -/
def bracketed (t : List Char) : List Char := '[' :: '[' :: (t ++ [']', ']'])

/-! ## Note references -/

theorem noteAtStart?_eq_some_iff {s t after : List Char} :
    noteAtStart? s = some (t, after) ↔
      s = '[' :: '[' :: (t ++ ']' :: ']' :: after) ∧ IsTarget t := by
  constructor
  · intro h
    refine ⟨noteAtStart?_split h, ?_⟩
    unfold noteAtStart? at h
    split at h
    case h_2 => cases h
    case h_1 r =>
      split at h
      case h_2 => cases h
      case h_1 c u v hrun _ =>
        cases h
        refine ⟨List.cons_ne_nil c u, ?_⟩
        intro hmem
        rw [← hrun] at hmem
        simpa using mem_takeWhile hmem
  · intro h
    obtain ⟨rfl, hne, hclosed⟩ := h
    obtain ⟨c, u, rfl⟩ := List.exists_cons_of_ne_nil hne
    have hrun : ∀ d ∈ c :: u, (d != ']') = true := by
      intro d hd
      exact bne_iff_ne.2 fun heq => hclosed (heq ▸ hd)
    have hstop : ∀ d ∈ (']' :: ']' :: after).head?, (d != ']') = false := by simp
    simp only [noteAtStart?, takeWhile_run hrun hstop, dropWhile_run hrun hstop]

theorem isTarget_of_noteReference? {s : List Char} {n : NoteReference}
    (h : noteReference? s = some n) : IsTarget n.target := by
  induction s generalizing n with
  | nil => cases h
  | cons c r ih =>
    unfold noteReference? at h
    split at h
    · next hstart =>
      cases h
      exact (noteAtStart?_eq_some_iff.1 hstart).2
    · obtain ⟨m, hm, rfl⟩ := Option.map_eq_some_iff.1 h
      have htarget := ih hm
      exact htarget

theorem wholeNote?_eq_some_iff {s t : List Char} :
    wholeNote? s = some t ↔ s = bracketed t ∧ IsTarget t := by
  have hstart : wholeNote? s = some t ↔ noteAtStart? s = some (t, []) := by
    unfold wholeNote?
    constructor
    · intro h
      split at h
      · next hs => rw [hs, Option.some.inj h]
      · cases h
    · intro h
      rw [h]
  rw [hstart, noteAtStart?_eq_some_iff]
  rfl

theorem noteReference?_bracketed {t : List Char} (h : IsTarget t) :
    noteReference? (bracketed t) = some ⟨[], t, []⟩ := by
  have hstart : noteAtStart? (bracketed t) = some (t, []) := noteAtStart?_eq_some_iff.2 ⟨rfl, h⟩
  rw [bracketed] at hstart ⊢
  rw [noteReference?, hstart]

theorem wholeNote?_eq_none_iff {s : List Char} :
    wholeNote? s = none ↔ ∀ t, IsTarget t → s ≠ bracketed t := by
  rw [Option.eq_none_iff_forall_ne_some]
  constructor
  · intro h t ht hs
    exact h t (wholeNote?_eq_some_iff.2 ⟨hs, ht⟩)
  · intro h t ht
    obtain ⟨hs, htarget⟩ := wholeNote?_eq_some_iff.1 ht
    exact h t htarget hs

/-- A target on its own is not a note reference. -/
theorem wholeNote?_of_isTarget {t : List Char} (h : IsTarget t) : wholeNote? t = none := by
  rw [Option.eq_none_iff_forall_ne_some]
  intro u hu
  obtain ⟨rfl, _⟩ := wholeNote?_eq_some_iff.1 hu
  exact h.2 (by simp [bracketed])

/-- Nor is anything that starts with a scheme. -/
theorem wholeNote?_of_schemed {s : List Char} (h : Schemed s) (t : List Char) :
    wholeNote? (s ++ t) = none := by
  rw [Option.eq_none_iff_forall_ne_some]
  intro u hu
  obtain ⟨hsplit, _⟩ := wholeNote?_eq_some_iff.1 hu
  obtain ⟨name, rest, hs, hname⟩ := h
  -- the first character of a note reference is neither dropped nor a letter
  cases s with
  | nil => simp at hs
  | cons c s =>
    obtain ⟨rfl, _⟩ := List.cons.inj hsplit
    have hkept : ('[' :: s).filter (!isIgnored ·) = '[' :: s.filter (!isIgnored ·) :=
      List.filter_cons_of_pos (by decide)
    rw [hkept] at hs
    cases name with
    | nil => cases hname
    | cons d name =>
      obtain ⟨rfl, _⟩ := List.cons.inj hs
      exact absurd hname (by simp [isScheme])

/-! ## Addresses -/

section Addresses

variable {base link a b : List Char}

theorem resolver_bracketed {t : List Char} (h : IsTarget t) :
    resolver base (bracketed t) = .ok (base ++ Percent.encode t) := by
  rw [resolver, wholeNote?_eq_some_iff.2 ⟨rfl, h⟩]

theorem resolver_eq_ok_iff (h : wholeNote? link = none) : resolver base link = .ok a ↔
    Proper link ∧ a = if ownScheme link = [] then base ++ Percent.encode link else link := by
  rw [resolver, h]
  dsimp only
  rw [bind_eq_ok]
  constructor
  · intro hok
    obtain ⟨v, hv, ha⟩ := hok
    obtain ⟨hproper, rfl⟩ := scheme_eq_ok_iff.1 hv
    refine ⟨hproper, ?_⟩
    simpa using (Except.ok.inj ha).symm
  · intro hok
    obtain ⟨hproper, rfl⟩ := hok
    refine ⟨ownScheme link, scheme_eq_ok_iff.2 ⟨hproper, rfl⟩, ?_⟩
    simp [pure, Except.pure]

/-- An address is that of a note under the base, or a link with a scheme of its own. -/
theorem address_cases (h : resolver base link = .ok a) :
    (∃ t, a = base ++ Percent.encode t) ∨
      a = link ∧ wholeNote? link = none ∧ ownScheme link ≠ [] := by
  cases hnote : wholeNote? link with
  | some t =>
    rw [resolver, hnote] at h
    exact .inl ⟨t, (Except.ok.inj h).symm⟩
  | none =>
    obtain ⟨_, ha⟩ := (resolver_eq_ok_iff hnote).1 h
    by_cases hscheme : ownScheme link = []
    · rw [if_pos hscheme] at ha
      exact .inl ⟨link, ha⟩
    · rw [if_neg hscheme] at ha
      exact .inr ⟨ha, rfl, hscheme⟩

/-- A link with a scheme is its own address. -/
theorem resolver_eq_self_iff (hnote : wholeNote? link = none) (hscheme : ownScheme link ≠ []) :
    resolver base link = .ok a ↔ Proper link ∧ a = link := by
  rw [resolver_eq_ok_iff hnote, if_neg hscheme]

/-- Under a base with a scheme, an address has one too, and is no note reference. -/
theorem address_schemed (hbase : Schemed base) (h : resolver base link = .ok a) :
    wholeNote? a = none ∧ ownScheme a ≠ [] := by
  rcases address_cases h with ⟨t, rfl⟩ | ⟨rfl, hnote, hscheme⟩
  · obtain ⟨hown, hne⟩ := hbase.ownScheme_append (Percent.encode t)
    rw [hown]
    exact ⟨wholeNote?_of_schemed hbase _, hne⟩
  · exact ⟨hnote, hscheme⟩

/-- Under a base with a scheme, an address that can be resolved at all is its own address. -/
theorem resolver_resolver (hbase : Schemed base) (h : resolver base link = .ok a)
    (hagain : resolver base a = .ok b) : b = a := by
  obtain ⟨hnote, hscheme⟩ := address_schemed hbase h
  exact ((resolver_eq_self_iff hnote hscheme).1 hagain).2

end Addresses

end RackElevation.Link
