import RackElevation.Proofs.Uri.Proper

/-
  References with a scheme

  A reference has a scheme of its own if, tabs and line breaks apart, it starts
  with one and a colon. Whatever is added at its end, it keeps this scheme, and
  seen from a base of another scheme it stays as it is.

  What is proved:
    1. `scheme_eq_ok_iff` — what is read as the scheme of a reference.
    2. `Schemed.ownScheme_append` — a scheme does not depend on the rest of the
       reference.
    3. `eq_of_resolve` — a reference of another scheme than the base is its own
       address.
-/

namespace RackElevation.Uri

open Text Outcome

/-- The scheme that a reference has of its own, in lower case, empty if it has none. -/
def ownScheme (s : List Char) : List Char := (takeScheme (clean s)).1

/-- Text that starts with a scheme and a colon, tabs and line breaks apart. -/
def Schemed (s : List Char) : Prop :=
  ∃ name rest, s.filter (!isIgnored ·) = name ++ ':' :: rest ∧ isScheme name = true

theorem isLeading_of_isIgnored {c : Char} (h : isIgnored c = true) : isLeading c = true := by
  simp only [isIgnored, Bool.or_eq_true, beq_iff_eq] at h
  rcases h with (rfl | rfl) | rfl <;> decide

theorem not_isLeading_of_isAlpha {c : Char} (h : c.isAlpha = true) : isLeading c = false := by
  have hletter : (decide (65 ≤ c.val ∧ c.val ≤ 90) ||
      (decide (97 ≤ c.val) && decide (c.val ≤ 122))) = true := h
  simp only [Bool.or_eq_true, Bool.and_eq_true, decide_eq_true_eq,
    UInt32.le_iff_toNat_le] at hletter
  change 65 ≤ c.toNat ∧ c.toNat ≤ 90 ∨ 97 ≤ c.toNat ∧ c.toNat ≤ 122 at hletter
  simp only [isLeading, decide_eq_false_iff_not]
  omega

/-- Text whose first character counts is only freed of tabs and line breaks. -/
theorem clean_eq_filter {s : List Char}
    (h : ∀ c ∈ (s.filter (!isIgnored ·)).head?, isLeading c = false) :
    clean s = s.filter (!isIgnored ·) := by
  induction s with
  | nil => rfl
  | cons c s ih =>
    by_cases hc : isIgnored c = true
    · have hleading := isLeading_of_isIgnored hc
      simp only [List.filter_cons, hc, Bool.not_true, Bool.false_eq_true, if_false] at h ⊢
      rw [← ih h, clean, List.dropWhile_cons_of_pos hleading, clean]
    · simp only [List.filter_cons, hc, Bool.not_false, if_true, List.head?_cons,
        Option.mem_some_iff, forall_eq'] at h
      rw [clean, List.dropWhile_cons_of_neg (by simp [h])]

theorem not_mem_of_isScheme {name : List Char} (h : isScheme name = true) : ':' ∉ name := by
  intro hmem
  cases name with
  | nil => cases hmem
  | cons c name =>
    simp only [isScheme, Bool.and_eq_true] at h
    exact absurd (List.all_eq_true.1 h.2 ':' hmem) (by decide)

theorem takeScheme_append {name : List Char} (h : isScheme name = true) (rest : List Char) :
    takeScheme (name ++ ':' :: rest) = (name.map Char.toLower, rest) := by
  rw [takeScheme, cut_append rest (not_mem_of_isScheme h)]
  simp [h]

/-- Without a colon there is no scheme. -/
theorem mem_of_ownScheme {s : List Char} (h : ownScheme s ≠ []) : ':' ∈ s := by
  rw [ownScheme, takeScheme] at h
  rcases cut_cases ':' (clean s) with ⟨_, hcut⟩ | ⟨before, after, hclean, _, _⟩
  · rw [hcut] at h
    exact absurd rfl h
  · have hmem : ':' ∈ clean s := by simp [hclean]
    exact (List.dropWhile_suffix isLeading).subset (List.mem_filter.1 hmem).1

namespace Schemed

variable {s : List Char}

/-- The first character of a reference with a scheme is a letter, a tab or a line break. -/
theorem clean_append (h : Schemed s) (t : List Char) :
    clean (s ++ t) = s.filter (!isIgnored ·) ++ t.filter (!isIgnored ·) := by
  obtain ⟨name, rest, hs, hname⟩ := h
  have hfilter : (s ++ t).filter (!isIgnored ·) =
      s.filter (!isIgnored ·) ++ t.filter (!isIgnored ·) := List.filter_append ..
  rw [clean_eq_filter, hfilter]
  cases name with
  | nil => cases hname
  | cons c name =>
    simp only [isScheme, Bool.and_eq_true] at hname
    simp [hfilter, hs, not_isLeading_of_isAlpha hname.1]

theorem ownScheme_append (h : Schemed s) (t : List Char) :
    ownScheme (s ++ t) = ownScheme s ∧ ownScheme s ≠ [] := by
  obtain ⟨name, rest, hs, hname⟩ := id h
  have hown : ∀ t, ownScheme (s ++ t) = name.map Char.toLower := by
    intro t
    rw [ownScheme, h.clean_append, hs, List.append_assoc, List.cons_append, takeScheme_append hname]
  have hself := hown []
  rw [List.append_nil] at hself
  rw [hown, hself]
  refine ⟨rfl, ?_⟩
  intro hnil
  rw [List.map_eq_nil_iff.1 hnil] at hname
  cases hname

theorem mem_append (h : Schemed s) (t : List Char) : ':' ∈ s ++ t := by
  obtain ⟨hown, hne⟩ := h.ownScheme_append t
  apply mem_of_ownScheme
  rwa [hown]

end Schemed

theorem scheme_eq_ok_iff {s v : List Char} : scheme s = .ok v ↔ Proper s ∧ v = ownScheme s := by
  constructor
  · intro h
    exact ⟨succeeds_scheme.1 ⟨v, h⟩, eq_of_scheme h⟩
  · intro h
    obtain ⟨hproper, rfl⟩ := h
    obtain ⟨w, hw⟩ := succeeds_scheme.2 hproper
    rw [hw, eq_of_scheme hw]
    rfl

/-- A reference whose scheme is not that of the base is its own address. -/
theorem eq_of_resolve {base ref a : List Char} (hbase : base ≠ []) (href : ref ≠ [])
    (hown : ownScheme ref ≠ []) (hscheme : ownScheme base ≠ ownScheme ref)
    (h : resolve base ref = .ok a) : a = ref := by
  have hb : ¬base.isEmpty = true := by simpa using hbase
  have hr : ¬ref.isEmpty = true := by simpa using href
  rw [resolve, if_neg hb, if_neg hr] at h
  obtain ⟨b, hb, h⟩ := bind_eq_ok.1 h
  obtain ⟨r, hr, h⟩ := bind_eq_ok.1 h
  have hbase : b.scheme = ownScheme base := by
    rw [scheme_of_split hb, ownScheme]
    cases (takeScheme (clean base)).1 <;> rfl
  have href : r.scheme = ownScheme ref := by
    rw [scheme_of_split hr, ← ownScheme, if_neg (by simpa using hown)]
  have hother : r.scheme ≠ b.scheme := by
    rw [hbase, href]
    exact hscheme.symm
  rw [if_pos (Or.inl hother)] at h
  exact (Except.ok.inj h).symm

end RackElevation.Uri
