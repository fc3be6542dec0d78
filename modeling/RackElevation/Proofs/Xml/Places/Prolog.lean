import RackElevation.Proofs.Xml.Places.Values

/-
  Places of faults before the root

  The marks before the root each start at a place in the document, and what is
  wrong with one is told for a place from there on. The root then starts at one of
  these marks.

  What is proved:
    1. `isStandalone_suffix` — what is wrong with a declaration of the version.
    2. `step_within`, `readProlog_within` — faults.
    3. `readProlog_root` — where the root starts.
-/

namespace RackElevation.Xml

open Text Outcome

/-! ## Before the root -/

theorem checkPublicId_within {n : Nat} {value valueEnd : List Char}
    (h : value.length + valueEnd.length ≤ n) : FaultsWithin n (checkPublicId value valueEnd) := by
  unfold checkPublicId
  split
  · exact .ok _
  · refine .error ?_
    have := (List.dropWhile_suffix isPublicIdChar : value.dropWhile isPublicIdChar <:+ value).length_le
    dsimp only
    omega

theorem addDefault_within {n : Nat} {d : Doctype} {a : AttributeTarget} {isCdata : Bool} {place : Nat}
    {value valueEnd : List Char} (hplace : place ≤ n) (h : value.length + valueEnd.length ≤ n) :
    FaultsWithin n (d.addDefault a isCdata place value valueEnd) := by
  unfold Doctype.addDefault
  split
  · refine .bind (attributeValue_within d isCdata [] ⟨hplace, ?_⟩) fun _ _ => .ok _
    intro after hafter
    cases hafter
    exact h
  · exact .ok _

/-- The texts of a setting, and that of a fault, are ends of the text that is read. -/
def SettingWithin (s : List Char) : Except (List Char) (Option (Setting × List Char)) → Prop
  | .error on => on <:+ s
  | .ok none => True
  | .ok (some (st, rest)) => st.nameOn <:+ s ∧ st.valueOn <:+ s ∧ rest <:+ s

theorem setting?_within (s : List Char) : SettingWithin s (setting? s) := by
  unfold setting?
  split
  · trivial
  split
  · exact List.suffix_refl _
  next c t _ =>
  have hname : (c :: t).dropWhile isSpace <:+ c :: t := List.dropWhile_suffix _
  revert hname
  generalize (c :: t).dropWhile isSpace = nameOn
  intro hname
  have hequals : (nameOn.dropWhile isSettingNameChar).dropWhile isSpace <:+ c :: t :=
    ((List.dropWhile_suffix _).trans (List.dropWhile_suffix _)).trans hname
  dsimp only
  split
  · trivial
  split
  · next r hr =>
    rw [hr] at hequals
    have hvalue := (List.suffix_cons '=' r).trans hequals
    split
    · exact hname
    split
    · exact List.nil_suffix
    · next q valueOn hq =>
      have hq := (suffix_of_dropWhile hq).trans hvalue
      have hvalueOn := (List.suffix_cons q valueOn).trans hq
      split
      · exact hq
      split
      · exact List.nil_suffix
      · next d rest hd =>
        have hd := (suffix_of_dropWhile hd).trans hvalueOn
        split
        · exact ⟨hname, hvalueOn, (List.suffix_cons d rest).trans hd⟩
        · exact hd
  · exact hequals

theorem lastSetting_suffix {s on rest : List Char} {st : Setting} (hname : st.nameOn <:+ s)
    (hvalue : st.valueOn <:+ s) (hrest : rest <:+ s) (h : lastSetting st rest = .error on) :
    on <:+ s := by
  unfold lastSetting at h
  split at h
  · cases h
    exact hname
  split at h
  · cases h
    exact hvalue
  split at h
  · cases h
    exact (List.dropWhile_suffix _).trans hrest
  · cases h

/-- A fault in the declaration of a document is in its body. -/
theorem isStandalone_suffix {body on : List Char} (h : isStandalone body = .error on) :
    on <:+ body := by
  have hfirst := setting?_within body
  unfold isStandalone at h
  generalize setting? body = x at h hfirst
  rcases x with _ | _ | ⟨version, rest⟩
  · cases h
    exact hfirst
  · cases h
    exact List.suffix_refl _
  obtain ⟨hname, _, hrest⟩ := hfirst
  have hsecond := setting?_within rest
  dsimp only [bind, Except.bind] at h
  split at h
  · cases h
    exact hname
  generalize setting? rest = x at h hsecond
  rcases x with _ | _ | ⟨second, rest'⟩
  · cases h
    exact List.IsSuffix.trans hsecond hrest
  · cases h
  obtain ⟨hname', hvalue', hrest'⟩ := hsecond
  have hthird := setting?_within rest'
  dsimp only at h
  split at h
  · exact lastSetting_suffix (hname'.trans hrest) (hvalue'.trans hrest) (hrest'.trans hrest) h
  split at h
  · cases h
    exact hvalue'.trans hrest
  generalize setting? rest' = x at h hthird
  have hrest'' := hrest'.trans hrest
  rcases x with _ | _ | ⟨third, rest''⟩
  · cases h
    exact List.IsSuffix.trans hthird hrest''
  · cases h
  obtain ⟨hname'', hvalue'', hend⟩ := hthird
  exact lastSetting_suffix (hname''.trans hrest'') (hvalue''.trans hrest'') (hend.trans hrest'') h

theorem step_within {n : Nat} {d : Doctype} {e : Expect} {place : Nat} {m : Mark} (hplace : place ≤ n)
    {on : List Char}
    (hm : m.FoundAt n on) : FaultsWithin n (step d e place m) := by
  have hliteral : ∀ {value valueEnd : List Char}, (Mark.literal value valueEnd).FoundAt n on →
      value.length + valueEnd.length ≤ n := by
    intro value valueEnd h
    cases h with
    | within h => exact h
  have hpublic : ∀ {value valueEnd : List Char} (x : Doctype × Expect),
      (Mark.literal value valueEnd).FoundAt n on →
      FaultsWithin n (checkPublicId value valueEnd >>= fun _ => .ok x) :=
    fun x hm => (checkPublicId_within (hliteral hm)).bind fun _ _ => .ok x
  have hdefault : ∀ {value valueEnd : List Char} (a : AttributeTarget) (isCdata : Bool),
      (Mark.literal value valueEnd).FoundAt n on →
      FaultsWithin n (d.addDefault a isCdata place value valueEnd >>= fun d =>
        .ok (d, Expect.attributeName a.element)) :=
    fun a isCdata hm => (addDefault_within hplace (hliteral hm)).bind fun _ _ => .ok _
  unfold step
  split
  · exact .ok _
  · exact .ok _
  · next body rest =>
    split
    · exact .ok _
    · next on hon =>
      have hlength := (isStandalone_suffix hon).length_le
      refine .error ?_
      cases hm with
      | within h => exact h.elim
      | declaration h _ =>
        dsimp only
        omega
  · exact hpublic _ hm
  · exact .ok _
  · exact .ok _
  · exact .ok _
  · next value valueEnd =>
    split
    · refine (entityText_within ⟨hplace, ?_⟩).bind fun _ _ => .ok _
      intro after hafter
      cases hafter
      exact hliteral hm
    · exact .ok _
  · exact hpublic _ hm
  · exact .ok _
  · exact .ok _
  · exact hpublic _ hm
  · split
    · exact .ok _
    · split
      · exact .ok _
      · exact .error hplace
  · exact hdefault _ _ hm
  · exact hdefault _ _ hm
  · cases hm with
    | within h => exact .error h
  · split
    · exact .ok _
    · exact .error hplace

theorem readProlog_within {n : Nat} {ps : List Placed} {d : Doctype} {e : Expect}
    (h : ∀ p ∈ ps, p.on.length ≤ n ∧ p.mark.FoundAt n p.on) :
    FaultsWithin n (readProlog d e ps) := by
  induction ps generalizing d e with
  | nil => exact .error (Nat.zero_le n)
  | cons p rest ih =>
    rw [List.forall_mem_cons] at h
    obtain ⟨⟨hon, hmark⟩, hrest⟩ := h
    rw [readProlog]
    have hstep := fun f => step_within (d := d) (e := e) hon hmark f
    split
    · exact .ok _
    · split
      · exact ih hrest
      · next f hf =>
        exact .error (hstep f hf)

/-- The root starts with its tag, at one of the marks. -/
theorem readProlog_root {n : Nat} {ps : List Placed} {d d' : Doctype} {e : Expect} {on : List Char}
    (h : ∀ p ∈ ps, p.on.length ≤ n ∧ p.mark.FoundAt n p.on)
    (hprolog : readProlog d e ps = .ok (d', on)) : on.length ≤ n ∧ RootStart on := by
  induction ps generalizing d e with
  | nil => cases hprolog
  | cons p rest ih =>
    rw [List.forall_mem_cons] at h
    obtain ⟨⟨hon, hmark⟩, hrest⟩ := h
    rw [readProlog] at hprolog
    split at hprolog
    · next hroot _ =>
      cases hprolog
      rw [hroot] at hmark
      cases hmark with
      | within h => exact h.elim
      | rootTag hstart => exact ⟨hon, hstart⟩
    · split at hprolog
      · exact ih hrest hprolog
      · cases hprolog

end RackElevation.Xml
