import RackElevation.Proofs.Decimal.Literal
import RackElevation.Proofs.Drawing.Plan
import RackElevation.Proofs.Outcome

/-
  What a node depicts

  A node depicts a tree if a reader can read it back and what is read is the
  tree. A node depicts what its attributes and its children depict, and an
  escaped text depicts what is kept of the text.

  What is proved:
    1. `depicts_leaf`, `depicts_around`, `depicts_group` — an element depicts
       the element of what is in it.
    2. `depicts_text`, `depicts_label` — an element with a literal or with any
       text in it depicts that text.
-/

namespace RackElevation

open Markup Entity Outcome

/-- An attribute is read back as a pair. -/
structure Shows (a : Svg.Attribute) (p : Pair) : Prop where
  readable : Readable a
  pair : pair a = p

/-- Attributes are read back as pairs. -/
abbrev ShowsAll := List.Forall₂ Shows

/-- A node is read back as a tree. -/
structure Depicts (n : Svg.Node) (t : Tree) : Prop where
  clear : Clear n
  tree : tree n = t

/-- Nodes are read back as trees. -/
abbrev DepictsAll := List.Forall₂ Depicts

/-! ## Attributes and nodes -/

theorem escaped_of_literal {s : String} (h : Literal s) : Escaped s.toList :=
  ⟨s.toList, (escape_of_plain h).symm⟩

theorem meaning_of_literal {s : String} (h : Literal s) : meaning s.toList = s.toList := by
  have := unescape_escape s.toList
  rw [escape_of_plain h, kept_of_plain h] at this
  simp [meaning, this]

theorem meaning_escape (s : List Char) : meaning (escape s) = kept s := by
  simp [meaning, unescape_escape]

theorem shows_fixed {name value : String} (hn : isName name.toList = true) (hv : Literal value) :
    Shows (.plain name value) (Plan.fixed name value) :=
  ⟨⟨hn, escaped_of_literal hv⟩, by simp [Markup.pair, Svg.Attribute.plain, Plan.fixed, meaning_of_literal hv]⟩

theorem shows_given {name : String} (hn : isName name.toList = true) (value : List Char) :
    Shows (.escaped name value) (Plan.given name value) :=
  ⟨⟨hn, value, rfl⟩, by simp [Markup.pair, Svg.Attribute.escaped, Plan.given, meaning_escape]⟩

theorem ShowsAll.append {as bs : List Svg.Attribute} {ps qs : List Pair} (h : ShowsAll as ps)
    (k : ShowsAll bs qs) : ShowsAll (as ++ bs) (ps ++ qs) := List.rel_append h k

theorem ShowsAll.legible {name : String} {as : List Svg.Attribute} {ps : List Pair}
    (hn : isName name.toList = true) (h : ShowsAll as ps) : Legible ⟨name, as⟩ := by
  refine ⟨hn, ?_⟩
  induction h with
  | nil => simp
  | cons ha _ ih => exact List.forall_mem_cons.2 ⟨ha.readable, ih⟩

theorem ShowsAll.map_pair {as : List Svg.Attribute} {ps : List Pair} (h : ShowsAll as ps) :
    as.map Markup.pair = ps := by
  induction h with
  | nil => rfl
  | cons ha _ ih => rw [List.map_cons, ha.pair, ih]

theorem DepictsAll.clear {ns : List Svg.Node} {ts : List Tree} (h : DepictsAll ns ts) :
    ClearAll ns := by
  induction h with
  | nil => trivial
  | cons hn _ ih => exact ⟨hn.clear, ih⟩

theorem DepictsAll.trees {ns : List Svg.Node} {ts : List Tree} (h : DepictsAll ns ts) :
    trees ns = ts := by
  induction h with
  | nil => rfl
  | cons hn _ ih => rw [Markup.trees, hn.tree, ih]

theorem DepictsAll.append {ns ms : List Svg.Node} {ts us : List Tree} (h : DepictsAll ns ts)
    (k : DepictsAll ms us) : DepictsAll (ns ++ ms) (ts ++ us) := List.rel_append h k

theorem DepictsAll.single {n : Svg.Node} {t : Tree} (h : Depicts n t) : DepictsAll [n] [t] :=
  .cons h .nil

section Elements

variable {name : String} {as : List Svg.Attribute} {ps : List Pair}

theorem depicts_leaf (hn : isName name.toList = true) (h : ShowsAll as ps) :
    Depicts (.leaf ⟨name, as⟩) (.element name ps []) :=
  ⟨h.legible hn, by rw [tree, element, h.map_pair]⟩

theorem depicts_around {child : Svg.Node} {t : Tree} (hn : isName name.toList = true)
    (h : ShowsAll as ps) (hc : Depicts child t) :
    Depicts (.around ⟨name, as⟩ child) (.element name ps [t]) :=
  ⟨⟨h.legible hn, hc.clear⟩, by rw [tree, element, h.map_pair, hc.tree]⟩

theorem depicts_group {children : List Svg.Node} {ts : List Tree} (hn : isName name.toList = true)
    (h : ShowsAll as ps) (hc : DepictsAll children ts) :
    Depicts (.group ⟨name, as⟩ children) (.element name ps (onLines ts)) :=
  ⟨⟨h.legible hn, hc.clear⟩, by rw [tree, element, h.map_pair, hc.trees]⟩

theorem depicts_text {s : String} (hn : isName name.toList = true) (h : ShowsAll as ps)
    (hs : Literal s) (hne : s ≠ "") :
    Depicts (.text ⟨name, as⟩ s.toList) (.element name ps [.text s.toList]) := by
  refine ⟨⟨h.legible hn, escaped_of_literal hs⟩, ?_⟩
  have hcontent : s.toList.isEmpty = false := by simpa using hne
  rw [tree, element, h.map_pair, hcontent, meaning_of_literal hs]
  rfl

/-- An escaped text is empty exactly if nothing is kept of it. -/
theorem isEmpty_escape (s : List Char) : (escape s).isEmpty = (kept s).isEmpty := by
  induction s with
  | nil => rfl
  | cons c s ih =>
    have hs : escape (c :: s) = escapeChar c ++ escape s := rfl
    have hk : kept (c :: s) = kept [c] ++ kept s := kept_append [c] s
    by_cases hd : isDropped c = true
    · rw [hs, hk]
      simpa [escapeChar, kept, hd] using ih
    · have hne : escapeChar c ≠ [] := by
        unfold escapeChar
        rw [if_neg hd]
        repeat' split
        all_goals simp
      have hkept : kept [c] = [c] := by simp [kept, hd]
      rw [hs, hk, hkept]
      simp [hne]

theorem depicts_label (h : ShowsAll as ps) (s : String) :
    Depicts (.label ⟨"text", as⟩ s.toList) (Plan.label ps s) := by
  refine ⟨⟨h.legible rfl, s.toList, rfl⟩, ?_⟩
  rw [Svg.Node.label, tree, element, h.map_pair, isEmpty_escape, meaning_escape]
  rfl

end Elements

end RackElevation
