import RackElevation.Proofs.Xml.Places.Prolog

/-
  Places of faults

  Whatever is wrong with a document, and however deep in its entities, the place
  that is told lies in the document: no more characters are left than it has.

  What is proved:
    1. `resolveTag_within`, `readTokens_within` — the root and what is in it.
    2. `readTokens_closed` — where the root ends.
    3. `readDocument_within` — the document.
-/

namespace RackElevation.Xml

open Text Outcome

/-! ## The root -/

theorem checkBinding_within {n whole : Nat} (shorthand space : List Char) (hwhole : whole ≤ n) :
    FaultsWithin n ((checkBinding shorthand space).mapError fun fault => ⟨fault, whole⟩) := by
  intro f hf
  obtain ⟨fault, _, rfl⟩ := mapError_eq_error.1 hf
  exact hwhole

theorem specified_within {n : Nat} {d : Doctype} {element : List Char} {opened : List (List Char)}
    {whole : Nat} {inEntity : Bool} {seen : List (List Char)} {scope : Bindings}
    {attributes : List RawAttribute} (hwhole : whole ≤ n)
    (h : inEntity = false → ∀ a ∈ attributes, a.Within n) :
    FaultsWithin n (specified d element opened whole inEntity seen scope attributes) := by
  induction attributes generalizing seen scope with
  | nil => exact .ok _
  | cons a rest ih =>
    have hfirst := fun hdocument => (List.forall_mem_cons.1 (h hdocument)).1
    have hrest := fun hdocument => (List.forall_mem_cons.1 (h hdocument)).2
    have hplacing : Placing.Within ⟨whole, if inEntity then none else some a.valueEnd⟩ a.value n := by
      refine ⟨hwhole, fun after hafter => ?_⟩
      cases inEntity with
      | true => cases hafter
      | false =>
        cases hafter
        exact (hfirst rfl).value
    rw [specified]
    split
    · refine .bind (.error ?_) fun _ h => nomatch h
      cases inEntity with
      | true => exact hwhole
      | false => exact (hfirst rfl).name
    · refine (attributeValue_within d _ opened hplacing).bind fun value _ => ?_
      split
      · exact (checkBinding_within _ value hwhole).bind fun _ _ => ih hrest
      · exact (ih hrest).bind fun _ _ => .ok _

theorem defaulted_within {n whole : Nat} {seen : List (List Char)} {scope : Bindings}
    {attributes : List AttributeDeclaration} (hwhole : whole ≤ n) :
    FaultsWithin n (defaulted whole seen scope attributes) := by
  induction attributes generalizing scope with
  | nil => exact .ok _
  | cons a rest ih =>
    rw [defaulted]
    split
    · exact ih
    split
    · exact ih
    split
    · exact (checkBinding_within _ _ hwhole).bind fun _ _ => ih
    · exact ih.bind fun _ _ => .ok _

theorem resolveAttributes_within {n whole : Nat} {scope : Bindings} {seen : List Name}
    {attributes : List PlainAttribute} (hwhole : whole ≤ n) :
    FaultsWithin n (resolveAttributes scope whole seen attributes) := by
  induction attributes generalizing seen with
  | nil => exact .ok _
  | cons a rest ih =>
    rw [resolveAttributes]
    split
    · exact ih.bind fun _ _ => .ok _
    split
    · exact .error hwhole
    · dsimp only
      split
      · exact .bind (.error hwhole) fun _ h => nomatch h
      · exact ih.bind fun _ _ => .ok _

theorem resolveElement_within {n whole : Nat} {scope : Bindings} {name : List Char}
    (hwhole : whole ≤ n) : FaultsWithin n (resolveElement scope whole name) := by
  unfold resolveElement
  split
  · exact .ok _
  split
  · exact .ok _
  · exact .error hwhole

theorem resolveTag_within {n whole : Nat} {d : Doctype} {scope : Bindings} {opened : List (List Char)}
    {inEntity : Bool} {tag : RawTag} (hwhole : whole ≤ n)
    (h : inEntity = false → ∀ a ∈ tag.attributes, a.Within n) :
    FaultsWithin n (resolveTag d scope opened whole inEntity tag) := by
  refine (specified_within hwhole h).bind fun ⟨scope, given, seen⟩ _ => ?_
  refine (defaulted_within hwhole).bind fun ⟨scope, extra⟩ _ => ?_
  refine (resolveAttributes_within hwhole).bind fun attributes _ => ?_
  exact (resolveElement_within hwhole).bind fun name _ => .ok _

/-- The places of what is read at a level lie in a document of so many characters. -/
def Level.Within (n : Nat) : Level → Prop
  | .document => True
  | .entity _ place => place ≤ n

theorem Level.place_le {n : Nat} {level : Level} {on : List Char} (h : level.Within n)
    (hon : level.isEntity = false → on.length ≤ n) : level.place on ≤ n := by
  cases level with
  | document => exact hon rfl
  | entity => exact h

/-- A token of a document lies in it; those of an entity are somewhere else. -/
def Token.Within (n : Nat) (level : Level) (t : Token) : Prop :=
  level.isEntity = false → t.on.length ≤ n ∧ t.content.Within n

section Content

variable {n : Nat} {d : Doctype} {opened : List (List Char)} {level : Level} {frames : List Frame}
  {on after : List Char}
  {enter : List Char → List Char → Nat → List Frame → Except Failure Progress}

theorem openElement_within {tag : RawTag} (hlevel : level.Within n)
    (hon : level.isEntity = false → on.length ≤ n)
    (htag : level.isEntity = false → ∀ a ∈ tag.attributes, a.Within n) :
    FaultsWithin n (openElement d opened level on tag after frames) := by
  refine (resolveTag_within (Level.place_le hlevel hon) htag).bind fun ⟨_, _, _⟩ _ => ?_
  dsimp only
  split
  · exact .ok _
  · exact .ok _

theorem closeElement_within {name : List Char} (hlevel : level.Within n)
    (hon : level.isEntity = false → on.length ≤ n) :
    FaultsWithin n (closeElement level on name after frames) := by
  have hplace := Level.place_le hlevel hon
  have hname : level.place (on.drop 2) ≤ n := Level.place_le hlevel fun hdocument =>
    Nat.le_trans (List.drop_suffix 2 on).length_le (hon hdocument)
  cases frames with
  | nil => exact .error hplace
  | cons f outer => exact .ite (.error hplace) (.ite (.ok _) (.error hname))

theorem readToken_within {t : Token} (hlevel : level.Within n) (ht : t.Within n level)
    (henter : ∀ name text place frames, place ≤ n → FaultsWithin n (enter name text place frames)) :
    FaultsWithin n (readToken d opened level enter t after frames) := by
  have hon := fun hdocument => (ht hdocument).1
  have hplace := Level.place_le hlevel hon
  unfold readToken
  dsimp only
  split
  · exact .ok _
  · split
    · exact .error hplace
    · exact .ok _
  · exact .ok _
  · exact .ok _
  · exact .error hplace
  · next fault on' heq =>
    refine .error (Level.place_le hlevel fun hdocument => ?_)
    have hcontent := (ht hdocument).2
    rw [heq] at hcontent
    exact hcontent
  · exact .error hplace
  · exact .ok _
  · split
    · exact .ok _
    · exact .error hplace
    · split
      · exact .error hplace
      split
      · exact .error hplace
      · exact .error hplace
      · exact henter _ _ _ _ hplace
  · next tag heq =>
    refine openElement_within hlevel hon fun hdocument => ?_
    have hcontent := (ht hdocument).2
    rw [heq] at hcontent
    exact hcontent
  · exact closeElement_within hlevel hon

theorem readTokens_within {ts : List Token} (hlevel : level.Within n)
    (hts : ∀ t ∈ ts, t.Within n level)
    (henter : ∀ name text place frames, place ≤ n → FaultsWithin n (enter name text place frames)) :
    FaultsWithin n (readTokens d opened level enter ts frames) := by
  induction ts generalizing frames with
  | nil =>
    have hplace : level.place [] ≤ n := Level.place_le hlevel fun _ => Nat.zero_le n
    unfold readTokens finish
    split
    · exact .error hplace
    · split
      · exact .ok _
      · exact .error hplace
  | cons t rest ih =>
    rw [List.forall_mem_cons] at hts
    have hfirst : FaultsWithin n (readToken d opened level enter t
        ((rest.head?.map Token.on).getD []) frames) := readToken_within hlevel hts.1 henter
    rw [readTokens]
    split
    · next f hf => exact .error (hfirst f hf)
    · exact .ok _
    · exact ih hts.2

theorem enterEntity_within (d : Doctype) (depth : Nat) (opened : List (List Char))
    (name text : List Char) {place : Nat} (frames : List Frame) (hplace : place ≤ n) :
    FaultsWithin n (enterEntity d depth opened name text place frames) := by
  induction depth generalizing opened name text place frames with
  | zero => exact .error hplace
  | succ depth ih =>
    have hlevel : (Level.entity frames.length place).Within n := hplace
    refine readTokens_within hlevel ?_ ?_
    · exact fun t _ hdocument => nomatch hdocument
    · exact fun name text place frames hplace => ih _ name text frames hplace

/-- The root is closed at a place of the document. -/
theorem readTokens_closed {ts : List Token} {root : Node} (henter : EntersKeeping enter)
    (hts : ∀ t ∈ ts, t.on.length ≤ n) (hopen : OpensFirst ts frames)
    (h : readTokens d opened .document enter ts frames = .ok (.closed root on)) : on.length ≤ n := by
  induction ts generalizing frames with
  | nil => cases h
  | cons t rest ih =>
    rw [List.forall_mem_cons] at hts
    rw [readTokens] at h
    split at h
    · cases h
    · next heq =>
      cases h
      have hon : on = (rest.head?.map Token.on).getD [] := readToken_document henter hopen heq
      rw [hon]
      cases rest with
      | nil => exact Nat.zero_le n
      | cons u rest => exact hts.2 u List.mem_cons_self
    · next heq =>
      exact ih hts.2 (.inl (readToken_document henter hopen heq)) h

end Content

/-! ## The document -/

theorem limitTokens_within {n : Nat} {w : Weights} {size grown : Nat} {ts : List Token}
    (h : ∀ t ∈ ts, t.on.length ≤ n ∧ t.content.Within n) :
    ∀ t ∈ limitTokens w size grown ts, t.on.length ≤ n ∧ t.content.Within n := by
  induction ts generalizing grown with
  | nil => exact h
  | cons t rest ih =>
    rw [List.forall_mem_cons] at h
    rw [limitTokens]
    split
    · exact List.forall_mem_cons.2 ⟨h.1, ih h.2⟩
    split
    · exact List.forall_mem_singleton.2 ⟨h.1.1, h.1.1⟩
    · exact List.forall_mem_cons.2 ⟨h.1, ih h.2⟩

theorem limitGrowth_within {n : Nat} {d : Doctype} {size : Nat} {ts : List Token}
    (h : ∀ t ∈ ts, t.on.length ≤ n ∧ t.content.Within n) :
    ∀ t ∈ limitGrowth d size ts, t.on.length ≤ n ∧ t.content.Within n := by
  unfold limitGrowth
  split
  · exact h
  · exact limitTokens_within h

theorem readEpilog_within {n : Nat} {ps : List Placed}
    (h : ∀ p ∈ ps, p.on.length ≤ n ∧ p.mark.FoundAt n p.on) :
    FaultsWithin n (readEpilog ps) := by
  induction ps with
  | nil => exact .ok _
  | cons p rest ih =>
    rw [List.forall_mem_cons] at h
    rw [readEpilog]
    split
    · exact ih h.2
    · exact ih h.2
    · next fault on heq =>
      have hmark := h.1.2
      rw [heq] at hmark
      cases hmark with
      | within h => exact .error h
    · exact .error h.1.1

/-- The marks at the end of a text of so many characters. -/
theorem marks_within_of_le {n : Nat} {s : List Char} (h : s.length ≤ n) :
    ∀ p ∈ marks s, p.on.length ≤ n ∧ p.mark.FoundAt n p.on := by
  intro p hp
  obtain ⟨hon, hmark⟩ := marks_within s p hp
  exact ⟨Nat.le_trans hon h, hmark.mono h⟩

/-- Each fault of a document lies in it. -/
theorem readDocument_within (s : List Char) : FaultsWithin s.length (readDocument s) := by
  refine (readProlog_within (marks_within_of_le (Nat.le_refl _))).bind fun ⟨d, on⟩ hprolog => ?_
  obtain ⟨hon, hstart⟩ := readProlog_root (marks_within s) hprolog
  have hkeeps := enterEntity_keeps d d.entities.length []
  have hts : ∀ t ∈ limitGrowth d (byteCount s) (tokens on),
      t.on.length ≤ s.length ∧ t.content.Within s.length := by
    refine limitGrowth_within fun t ht => ?_
    obtain ⟨hplace, hcontent⟩ := tokens_within on t ht
    exact ⟨Nat.le_trans hplace hon, hcontent.mono hon⟩
  have hopen : OpensFirst (limitGrowth d (byteCount s) (tokens on)) [] :=
    opensFirst_limitGrowth (opensFirst_tokens hstart)
  have hlevel : Level.document.Within s.length := trivial
  refine (readTokens_within hlevel (fun t ht _ => hts t ht) ?_).bind fun p hp => ?_
  · exact fun name text place frames hplace => enterEntity_within d _ [] name text frames hplace
  cases p with
  | inside frames => exact .error (Nat.zero_le _)
  | closed root after =>
    have hafter := readTokens_closed hkeeps (fun t ht => (hts t ht).1) hopen hp
    exact (readEpilog_within (marks_within_of_le hafter)).bind fun _ _ => .ok _

end RackElevation.Xml
