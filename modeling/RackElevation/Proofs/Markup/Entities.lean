import Mathlib.Data.Set.Operations
import RackElevation.Proofs.Markup.Character

/-
  Entities

  Escaping leaves the control characters out and then replaces five characters
  one after the other. The ampersand has to be the first of them, since every
  entity starts with one; done in this order, a replacement finds nothing in what
  those before it have written, and each character can be escaped by itself. So
  an escaped text says what it was escaped from, entities that it already held
  included.

  What is proved:
    1. `escape_eq_replaceEach` — escaping by characters is escaping by
       replacements.
    2. `existsUnique_entity` — an ampersand of an escaped text starts one of the
       entities.
    3. `escape_eq_iff` — texts are escaped alike if what is kept of them is the
       same.
    4. `escape_exact` — what an escaped text holds, and what it stands for.
-/

namespace RackElevation.Entity

open Markup

/-- The characters that become entities, in the order in which they are replaced. -/
def entities : List (Char × List Char) :=
  [('&', "&amp;".toList), ('<', "&lt;".toList), ('>', "&gt;".toList), ('"', "&quot;".toList),
    ('\'', "&#x27;".toList)]

/-- A text with a text in place of each occurrence of a character. -/
def replaceAll (c : Char) (t s : List Char) : List Char :=
  s.flatMap fun d => if d = c then t else [d]

/-- A text after replacements, one after the other. -/
def replaceEach (l : List (Char × List Char)) (s : List Char) : List Char :=
  l.foldl (fun s e => replaceAll e.1 e.2 s) s

/-! ## Replacements -/

theorem replaceEach_append (l : List (Char × List Char)) (s t : List Char) :
    replaceEach l (s ++ t) = replaceEach l s ++ replaceEach l t := by
  induction l generalizing s t with
  | nil => rfl
  | cons e l ih =>
    have hfirst : replaceAll e.1 e.2 (s ++ t) = replaceAll e.1 e.2 s ++ replaceAll e.1 e.2 t :=
      List.flatMap_append
    exact (congrArg (replaceEach l) hfirst).trans (ih _ _)

theorem replaceEach_of_forall_ne {l : List (Char × List Char)} {c : Char} (h : ∀ e ∈ l, c ≠ e.1) :
    replaceEach l [c] = [c] := by
  induction l with
  | nil => rfl
  | cons e l ih =>
    obtain ⟨he, hl⟩ := List.forall_mem_cons.1 h
    have hfirst : replaceAll e.1 e.2 [c] = [c] := by simp [replaceAll, he]
    exact (congrArg (replaceEach l) hfirst).trans (ih hl)

/-- How a character is written: not at all, as its entity, or as it stands. -/
theorem escapeChar_cases (c : Char) :
    (isDropped c = true ∧ escapeChar c = []) ∨
      isDropped c = false ∧ ((c, escapeChar c) ∈ entities ∨
        (∀ e ∈ entities, c ≠ e.1) ∧ escapeChar c = [c]) := by
  unfold escapeChar
  by_cases hd : isDropped c = true
  · exact .inl ⟨hd, if_pos hd⟩
  refine .inr ⟨Bool.eq_false_iff.2 hd, ?_⟩
  rw [if_neg hd]
  iterate 5
    split
    · next h => subst h; exact .inl (by decide)
  right
  simp_all [entities]

theorem escapeChar_eq_replaceEach (c : Char) : escapeChar c = replaceEach entities (kept [c]) := by
  obtain ⟨hd, hc⟩ | ⟨hd, hc⟩ := escapeChar_cases c
  · rw [hc]
    simp [kept, hd, replaceEach, replaceAll, entities]
  have hk : kept [c] = [c] := by simp [kept, hd]
  rw [hk]
  obtain hc | ⟨hne, hc⟩ := hc
  · have hall : ∀ e ∈ entities, e.2 = replaceEach entities [e.1] := by decide
    exact hall _ hc
  · rw [hc, replaceEach_of_forall_ne hne]

theorem escape_eq_replaceEach (s : List Char) : escape s = replaceEach entities (kept s) := by
  induction s with
  | nil => rfl
  | cons c s ih =>
    have hs : escape (c :: s) = escapeChar c ++ escape s := rfl
    have hk : kept (c :: s) = kept [c] ++ kept s := kept_append [c] s
    rw [hs, hk, replaceEach_append, ← escapeChar_eq_replaceEach, ih]

/-! ## Ampersands -/

/-- An entity holds one ampersand, at its start. -/
theorem entities_ampersand : ∀ e ∈ entities, e.2.head? = some '&' ∧ '&' ∉ e.2.tail := by decide

/-- No entity goes on where another one ends. -/
theorem entities_apart : ∀ e ∈ entities, ∀ f ∈ entities, e.2 <+: f.2 → e.2 = f.2 := by decide

/-- An element that does not come later in a list stands at its start, if it stands in it. -/
theorem eq_nil_of_not_mem_tail {α : Type} {a : α} {l before rest : List α}
    (h : l = before ++ a :: rest) (ha : a ∉ l.tail) : before = [] := by
  cases before with
  | nil => rfl
  | cons b before =>
    rw [h] at ha
    exact absurd (List.mem_append_right before List.mem_cons_self) ha

theorem escapeChar_ampersand {c : Char} {before rest : List Char}
    (h : escapeChar c = before ++ '&' :: rest) : before = [] ∧ (c, escapeChar c) ∈ entities := by
  obtain ⟨_, hc⟩ | ⟨_, hc⟩ := escapeChar_cases c
  · rw [hc] at h
    simp at h
  obtain hc | ⟨hne, hc⟩ := hc
  · obtain ⟨_, htail⟩ := entities_ampersand _ hc
    exact ⟨eq_nil_of_not_mem_tail h htail, hc⟩
  · have hamp : c ≠ '&' := hne ('&', "&amp;".toList) (by decide)
    rw [hc] at h
    obtain rfl := eq_nil_of_not_mem_tail h List.not_mem_nil
    exact absurd (List.cons.inj h).1 hamp

theorem existsUnique_entity {s before rest : List Char} (h : escape s = before ++ '&' :: rest) :
    ∃! e, e ∈ entities.map Prod.snd ∧ e <+: '&' :: rest := by
  have hexists : ∃ e ∈ entities, e.2 <+: '&' :: rest := by
    -- along the text: the ampersand is written for the first character or for a later one
    induction s generalizing before with
    | nil => simp [escape] at h
    | cons c s ih =>
      have hs : escape (c :: s) = escapeChar c ++ escape s := rfl
      rw [hs] at h
      obtain ⟨m, hbefore, hlater⟩ | ⟨m, hfirst, hrest⟩ := List.append_eq_append_iff.1 h
      · exact ih hlater
      · cases m with
        | nil =>
          have hstart : escape s = [] ++ '&' :: rest := hrest.symm
          exact ih hstart
        | cons d m =>
          obtain ⟨rfl, hrest⟩ := List.cons.inj hrest
          obtain ⟨rfl, hc⟩ := escapeChar_ampersand hfirst
          exact ⟨_, hc, escape s, by rw [hfirst, hrest]; rfl⟩
  obtain ⟨e, he, hprefix⟩ := hexists
  refine ⟨e.2, ⟨List.mem_map_of_mem he, hprefix⟩, ?_⟩
  rintro _ ⟨hmem, hother⟩
  obtain ⟨f, hf, rfl⟩ := List.mem_map.1 hmem
  obtain hef | hfe := List.prefix_or_prefix_of_prefix hprefix hother
  · exact (entities_apart e he f hf hef).symm
  · exact entities_apart f hf e he hfe

/-! ## What an escaped text stands for -/

theorem escape_eq_iff {s t : List Char} : escape s = escape t ↔ kept s = kept t := by
  constructor
  · intro h
    have hread := congrArg unescape h
    rwa [unescape_escape, unescape_escape, Option.some.injEq] at hread
  · intro h
    rw [escape_eq_replaceEach, h, ← escape_eq_replaceEach]

theorem kept_eq_self {s : List Char} : kept s = s ↔ ∀ c ∈ s, isDropped c = false := by
  simp [kept]

theorem escape_injOn : Set.InjOn escape {s | ∀ c ∈ s, isDropped c = false} := by
  intro s hs t ht h
  rwa [escape_eq_iff, kept_eq_self.2 hs, kept_eq_self.2 ht] at h

/-- No control character is written but tab, LF and CR. -/
theorem forall_escape_kept (s : List Char) : ∀ c ∈ escape s, isDropped c = false := by
  have hordinary : ∀ c, Ordinary c → isDropped c = false := by
    rintro c (rfl | hc)
    · rfl
    · exact isDropped_eq_false_iff.2 (.inl hc.1)
  apply (forall_escape_iff hordinary s).2
  intro c hc
  simpa [kept] using (List.mem_filter.1 hc).2

/-- An escaped text holds no bracket, no quote and no control character but tab, LF and CR; each of
its ampersands starts one entity, and reading the entities gives what is kept of the text. It is
what the replacements make of that, piece by piece, and texts without control characters are
escaped differently. -/
theorem escape_exact (s t : List Char) :
    (∀ c ∈ escape s, c ∉ ['<', '>', '"', '\''] ∧ (c.toNat < 0x20 → c ∈ ['\t', '\n', '\r'])) ∧
    (∀ before rest, escape s = before ++ '&' :: rest →
      ∃! e, e ∈ entities.map Prod.snd ∧ e <+: '&' :: rest) ∧
    unescape (escape s) = some (kept s) ∧
    escape s = replaceEach entities (kept s) ∧
    escape (s ++ t) = escape s ++ escape t ∧
    Set.InjOn escape {u | ∀ c ∈ u, isDropped c = false} := by
  refine ⟨?_, fun _ _ => existsUnique_entity, unescape_escape s, escape_eq_replaceEach s,
    escape_append s t, escape_injOn⟩
  intro c hc
  constructor
  · intro hmem
    exact not_mem_escape s (by simpa using hmem) hc
  · intro hlow
    have hkept := isDropped_eq_false_iff.1 (forall_escape_kept s c hc)
    have hhigh : ¬0x20 ≤ c.toNat := Nat.not_le.2 hlow
    simpa [hhigh] using hkept

/-- A text that looks escaped once a control character is left out. -/
def disguised : List Char := "&am\x00p;lt;".toList

theorem escape_exact_disguised :
    escape disguised = "&amp;amp;lt;".toList ∧
    unescape (escape disguised) = some "&amp;lt;".toList ∧
    (∃! e, e ∈ entities.map Prod.snd ∧ e <+: "&amp;amp;lt;".toList) ∧
    escape "&lt;".toList ≠ escape "<".toList := by
  have htext : escape disguised = [] ++ '&' :: "amp;amp;lt;".toList := by decide
  have hkept : kept disguised = "&amp;lt;".toList := by decide
  obtain ⟨_, hamp, hread, _, _, hinj⟩ := escape_exact disguised []
  have hentity := kept_eq_self.1 (rfl : kept "&lt;".toList = "&lt;".toList)
  have hbracket := kept_eq_self.1 (rfl : kept "<".toList = "<".toList)
  refine ⟨htext, hkept ▸ hread, hamp [] _ htext, fun h => ?_⟩
  exact absurd (hinj hentity hbracket h) (by decide)

end RackElevation.Entity
