import RackElevation.Proofs.Markup.Reading

/-
  Characters of a document

  A document may hold tab, LF, CR and every character from the space on, but for
  the surrogates, which no text holds, and two characters without a meaning:
  U+FFFE and U+FFFF. Of what a document may not hold, escaping leaves out the
  control characters only.

  A property of characters is asked of everything that is written. If it holds
  of the characters of ASCII that can be printed and of the line break, then
  markup and entities make no difference, and what counts are the names, the
  values and the texts that a reader finds.

  What is proved:
    1. `legal_iff` — the characters that a document may hold are those that
       escaping keeps, without two of them.
    2. `forall_escape_iff` — a property of an escaped text is one of what is
       kept of it.
    3. `forall_write_iff` — a property of a written node is one of its tree.
-/

namespace RackElevation.Markup

open Svg Entity

/-- The characters that a document may hold. -/
def Legal (c : Char) : Prop :=
  c = '\t' ∨ c = '\n' ∨ c = '\r' ∨ (0x20 ≤ c.toNat ∧ c.toNat ≤ 0xD7FF) ∨
    (0xE000 ≤ c.toNat ∧ c.toNat ≤ 0xFFFD) ∨ (0x10000 ≤ c.toNat ∧ c.toNat ≤ 0x10FFFF)

/-- The two characters above the control characters that a document may not hold. -/
def Noncharacter (c : Char) : Prop := c.toNat = 0xFFFE ∨ c.toNat = 0xFFFF

/-- The line break and the characters of ASCII that can be printed. -/
def Ordinary (c : Char) : Prop := c = '\n' ∨ (0x20 ≤ c.toNat ∧ c.toNat < 0x7F)

instance (c : Char) : Decidable (Ordinary c) := inferInstanceAs (Decidable (_ ∨ _))

theorem isDropped_eq_false_iff {c : Char} :
    isDropped c = false ↔ 0x20 ≤ c.toNat ∨ c = '\t' ∨ c = '\n' ∨ c = '\r' := by
  rw [← Bool.not_eq_true]
  simp only [isDropped, Bool.and_eq_true, decide_eq_true_eq]
  have hle : ¬c.toNat < 32 ↔ 32 ≤ c.toNat := Nat.not_lt
  tauto

theorem legal_iff {c : Char} : Legal c ↔ isDropped c = false ∧ ¬Noncharacter c := by
  have hvalid : c.toNat < 0xD800 ∨ (0xDFFF < c.toNat ∧ c.toNat < 0x110000) := c.valid
  have htab : c = '\t' → c.toNat = 9 := fun h => h ▸ rfl
  have hline : c = '\n' → c.toNat = 10 := fun h => h ▸ rfl
  have hreturn : c = '\r' → c.toNat = 13 := fun h => h ▸ rfl
  rw [isDropped_eq_false_iff, Legal, Noncharacter]
  by_cases hlow : c.toNat < 0x20
  · -- below the space the two sides name the same three characters
    constructor
    · intro h
      refine ⟨?_, by omega⟩
      rcases h with h | h | h | h | h | h
      · exact .inr (.inl h)
      · exact .inr (.inr (.inl h))
      · exact .inr (.inr (.inr h))
      all_goals omega
    · intro h
      rcases h.1 with h | h | h | h
      · omega
      · exact .inl h
      · exact .inr (.inl h)
      · exact .inr (.inr (.inl h))
  · constructor
    · intro h
      refine ⟨.inl (by omega), ?_⟩
      rcases h with h | h | h | h | h | h
      · have := htab h
        omega
      · have := hline h
        omega
      · have := hreturn h
        omega
      all_goals omega
    · intro h
      have hnot := h.2
      refine .inr (.inr (.inr ?_))
      omega

theorem legal_of_ordinary {c : Char} (h : Ordinary c) : Legal c := by
  rcases h with h | h
  · exact .inr (.inl h)
  · refine .inr (.inr (.inr (.inl ⟨h.1, ?_⟩)))
    omega

/-! ## Properties of what is written -/

/-- All characters of a text have a property. -/
def AllOf (p : Char → Prop) (s : List Char) : Prop := ∀ c ∈ s, p c

instance (s : List Char) : Decidable (AllOf Ordinary s) := List.decidableBAll _ s

theorem allOf_nil (p : Char → Prop) : AllOf p [] := fun _ h => nomatch h

theorem allOf_append {p : Char → Prop} {s t : List Char} :
    AllOf p (s ++ t) ↔ AllOf p s ∧ AllOf p t := List.forall_mem_append

theorem allOf_cons {p : Char → Prop} {c : Char} {s : List Char} :
    AllOf p (c :: s) ↔ p c ∧ AllOf p s := List.forall_mem_cons

mutual
/-- The characters of a tree: those of its names, its values and its texts. -/
def characters : Tree → List Char
  | .text content => content
  | .element name attributes children =>
    name.toList ++ attributes.flatMap (fun a => a.1.toList ++ a.2) ++ charactersOf children

/-- The characters of trees. -/
def charactersOf : List Tree → List Char
  | [] => []
  | t :: rest => characters t ++ charactersOf rest
end

theorem charactersOf_append (ts us : List Tree) :
    charactersOf (ts ++ us) = charactersOf ts ++ charactersOf us := by
  induction ts with
  | nil => rfl
  | cons t ts ih => rw [List.cons_append, charactersOf, charactersOf, ih, List.append_assoc]

section Properties

-- a property that markup and entities have
variable {p : Char → Prop} (hp : ∀ c, Ordinary c → p c)

include hp

theorem allOf_ordinary {s : List Char} (h : AllOf Ordinary s) : AllOf p s := fun c hc => hp c (h c hc)

theorem forall_escapeChar_iff (c : Char) : AllOf p (escapeChar c) ↔ AllOf p (kept [c]) := by
  by_cases hd : isDropped c = true
  · have hempty : escapeChar c = [] := by rw [escapeChar, if_pos hd]
    rw [hempty]
    simp [kept, hd]
  · have hk : kept [c] = [c] := by simp [kept, hd]
    have hsame : ∀ {s t : List Char}, AllOf Ordinary s → AllOf Ordinary t →
        (AllOf p s ↔ AllOf p t) :=
      fun hs ht => iff_of_true (allOf_ordinary hp hs) (allOf_ordinary hp ht)
    rw [hk, escapeChar, if_neg hd]
    -- an entity is ordinary, and so is the character it stands for
    split
    · next h => subst h; exact hsame (by decide) (by decide)
    split
    · next h => subst h; exact hsame (by decide) (by decide)
    split
    · next h => subst h; exact hsame (by decide) (by decide)
    split
    · next h => subst h; exact hsame (by decide) (by decide)
    split
    · next h => subst h; exact hsame (by decide) (by decide)
    · exact Iff.rfl

theorem forall_escape_iff (s : List Char) : AllOf p (escape s) ↔ AllOf p (kept s) := by
  induction s with
  | nil => exact Iff.rfl
  | cons c s ih =>
    have hs : escape (c :: s) = escapeChar c ++ escape s := rfl
    have hk : kept (c :: s) = kept [c] ++ kept s := kept_append [c] s
    rw [hs, hk, allOf_append, allOf_append, forall_escapeChar_iff hp, ih]

theorem forall_meaning_iff {s : List Char} (h : Escaped s) : AllOf p s ↔ AllOf p (meaning s) := by
  obtain ⟨t, rfl⟩ := h
  have hmeaning : meaning (escape t) = kept t := by simp [meaning, unescape_escape]
  rw [hmeaning, forall_escape_iff hp]

theorem forall_attribute_iff {a : Svg.Attribute} (h : Readable a) :
    AllOf p a.write ↔ AllOf p ((pair a).1.toList ++ (pair a).2) := by
  have hspace : p ' ' := hp ' ' (by decide)
  have hequals : p '=' := hp '=' (by decide)
  have hquote : p '"' := hp '"' (by decide)
  have hend : AllOf p ['"'] := allOf_ordinary hp (by decide)
  rw [Svg.Attribute.write, allOf_cons, allOf_append, allOf_cons, allOf_cons, allOf_append,
    forall_meaning_iff hp h.value, allOf_append]
  simp only [hspace, hequals, hquote, hend, true_and, and_true]
  exact Iff.rfl

theorem forall_inner_iff {t : Tag} (h : Legible t) (children : List Tree) :
    AllOf p t.writeInner ∧ AllOf p (charactersOf children) ↔ AllOf p (characters (element t children)) := by
  have hattributes : AllOf p (t.attributes.flatMap Svg.Attribute.write) ↔
      AllOf p ((t.attributes.map pair).flatMap fun a => a.1.toList ++ a.2) := by
    rw [List.flatMap_map, AllOf, AllOf, List.forall_mem_flatMap, List.forall_mem_flatMap]
    exact forall₂_congr fun a ha => forall_attribute_iff hp (h.attributes a ha)
  rw [Tag.writeInner, element, characters, allOf_append, allOf_append, allOf_append, hattributes]

theorem forall_start_iff (t : Tag) : AllOf p t.writeStart ↔ AllOf p t.writeInner := by
  have hopen : p '<' := hp '<' (by decide)
  have hclose : AllOf p ['>'] := allOf_ordinary hp (by decide)
  rw [Tag.writeStart, allOf_cons, allOf_append]
  simp only [hopen, hclose, true_and, and_true]

/-- An end tag only repeats the name of the start tag. -/
theorem forall_end_of_start {t : Tag} (h : AllOf p t.writeInner) : AllOf p t.writeEnd := by
  have hname : AllOf p t.name.toList := (allOf_append.1 h).1
  have hclose : AllOf p ['>'] := allOf_ordinary hp (by decide)
  rw [Tag.writeEnd, allOf_cons, allOf_cons, allOf_append]
  exact ⟨hp '<' (by decide), hp '/' (by decide), hname, hclose⟩

/-- What stands between two tags. -/
theorem forall_between_iff {t : Tag} {s : List Char} {q : Prop} (hs : AllOf p s ↔ q) :
    AllOf p (t.writeStart ++ s ++ t.writeEnd) ↔ AllOf p t.writeInner ∧ q := by
  rw [allOf_append, allOf_append, forall_start_iff hp, hs, and_assoc]
  constructor
  · intro h
    exact ⟨h.1, h.2.1⟩
  · intro h
    exact ⟨h.1, h.2, forall_end_of_start hp h.1⟩

theorem forall_onLines_iff (ts : List Tree) :
    AllOf p (charactersOf (onLines ts)) ↔ AllOf p (charactersOf ts) := by
  have hbreak : AllOf p ['\n'] := allOf_ordinary hp (by decide)
  have hlines : AllOf p (charactersOf (ts.flatMap fun t => [t, .text ['\n']])) ↔
      AllOf p (charactersOf ts) := by
    induction ts with
    | nil => exact Iff.rfl
    | cons t ts ih =>
      rw [List.flatMap_cons, charactersOf_append, allOf_append, ih, charactersOf, charactersOf,
        charactersOf, characters, charactersOf, List.append_nil, allOf_append, allOf_append]
      simp only [hbreak, and_true]
  rw [onLines, charactersOf, characters, allOf_append, hlines]
  simp only [hbreak, true_and]

mutual
theorem forall_write_iff (n : Node) (h : Clear n) : AllOf p n.write ↔ AllOf p (characters (tree n)) := by
  match n, h with
  | .leaf tag, h =>
    have hopen : p '<' := hp '<' (by decide)
    have hclose : AllOf p ['/', '>'] := allOf_ordinary hp (by decide)
    have hnone : AllOf p (charactersOf []) := allOf_nil p
    rw [Node.write, Tag.writeEmpty, allOf_cons, allOf_append, tree, ← forall_inner_iff hp h]
    simp only [hopen, hclose, hnone, true_and, and_true]
  | .text tag content, ⟨ht, hc⟩ =>
    have htext : AllOf p content ↔
        AllOf p (charactersOf (if content.isEmpty then [] else [.text (meaning content)])) := by
      cases content with
      | nil => exact iff_of_true (allOf_nil p) (allOf_nil p)
      | cons c r =>
        rw [if_neg (by simp), charactersOf, characters, charactersOf, List.append_nil]
        exact forall_meaning_iff hp hc
    rw [Node.write, tree, ← forall_inner_iff hp ht]
    exact forall_between_iff hp htext
  | .around tag child, ⟨ht, hc⟩ =>
    have hchild : AllOf p child.write ↔ AllOf p (charactersOf [tree child]) := by
      rw [charactersOf, charactersOf, List.append_nil]
      exact forall_write_iff child hc
    rw [Node.write, tree, ← forall_inner_iff hp ht]
    exact forall_between_iff hp hchild
  | .group tag children, ⟨ht, hc⟩ =>
    have hbreak : p '\n' := hp '\n' (by decide)
    have hchildren : AllOf p ('\n' :: Node.writeLines children) ↔
        AllOf p (charactersOf (onLines (trees children))) := by
      rw [forall_onLines_iff hp, ← forall_writeLines_iff children hc, allOf_cons]
      simp only [hbreak, true_and]
    have hwrite : (Node.group tag children).write =
        tag.writeStart ++ ('\n' :: Node.writeLines children) ++ tag.writeEnd := by
      rw [Node.write, List.append_assoc, List.cons_append]
    rw [hwrite, tree, ← forall_inner_iff hp ht]
    exact forall_between_iff hp hchildren

theorem forall_writeLines_iff (l : List Node) (h : ClearAll l) :
    AllOf p (Node.writeLines l) ↔ AllOf p (charactersOf (trees l)) := by
  match l, h with
  | [], _ => exact Iff.rfl
  | n :: l, ⟨hn, hl⟩ =>
    have hbreak : p '\n' := hp '\n' (by decide)
    rw [Node.writeLines, trees, charactersOf, allOf_append, allOf_cons, allOf_append,
      forall_write_iff n hn, forall_writeLines_iff l hl]
    simp only [hbreak, true_and]
end

end Properties

end RackElevation.Markup
