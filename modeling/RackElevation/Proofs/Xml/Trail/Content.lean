import RackElevation.Proofs.Xml.Trail.Prolog

/-
  Blank text behind a document: its tokens

  A token of the root is read in the same way with blank text behind the document,
  and leaves the same elements open. The text of an entity is no part of the
  document, so it is read in the same way wherever it is referred to.

  What is proved:
    1. `resolveTag_more`, `readReference_more` — tags and references.
    2. `readToken_more` — a token.
    3. `enterEntity_place` — what an entity stands for.
-/

namespace RackElevation.Xml

open Text Outcome

/-! ## Tokens -/

/-- The texts in a token go on behind it. -/
def Token.more (w : List Char) (t : Token) : Token := ⟨t.on ++ w, t.content.more w⟩

theorem Token.more_nil (t : Token) : t.more [] = t := by
  have hattribute : ∀ a : RawAttribute, a.more [] = a := fun a => by
    rw [RawAttribute.more, List.append_nil, List.append_nil]
  obtain ⟨on, content⟩ := t
  rw [Token.more, List.append_nil]
  cases content with
  | openTag tag =>
    rw [Content.more, RawTag.more, List.map_congr_left fun a _ => hattribute a, List.map_id']
  | _ => rfl

/-- The text behind the root goes on. -/
def Progress.more (w : List Char) : Progress → Progress
  | .inside frames => .inside frames
  | .closed root on => .closed root (on ++ w)

theorem Progress.more_nil (p : Progress) : p.more [] = p := by
  cases p with
  | inside => rfl
  | closed root on => rw [Progress.more, List.append_nil]

/-- Two levels that differ in places only. -/
inductive Level.Alike : Level → Level → Prop
  | document : Alike .document .document
  | entity (depth place place' : Nat) : Alike (.entity depth place) (.entity depth place')

section Tag

variable {d : Doctype} {opened : List (List Char)} {whole whole' : Nat} {inEntity : Bool}

theorem specified_more (w : List Char) (element : List Char) (seen : List (List Char)) (scope : Bindings)
    (attributes : List RawAttribute) :
    SameResult (specified d element opened whole inEntity seen scope attributes)
      (specified d element opened whole' inEntity seen scope
        (attributes.map (RawAttribute.more w))) := by
  induction attributes generalizing seen scope with
  | nil => exact .refl _
  | cons a rest ih =>
    rw [List.map_cons, specified, specified]
    refine .ite (.error _ _) ?_
    refine (attributeValue_place d _ opened _ _ a.value).bind fun value _ => ?_
    dsimp only [RawAttribute.more]
    cases boundShorthand? a.name with
    | some shorthand => exact (SameResult.mapError _ _ _).bind fun _ _ => ih _ _
    | none => exact (ih _ _).bind fun _ _ => .refl _

theorem defaulted_place (seen : List (List Char)) (scope : Bindings)
    (attributes : List AttributeDeclaration) :
    SameResult (defaulted whole seen scope attributes) (defaulted whole' seen scope attributes) := by
  induction attributes generalizing scope with
  | nil => exact .refl _
  | cons a rest ih =>
    rw [defaulted, defaulted]
    cases a.default with
    | none => exact ih _
    | some value =>
      refine .ite (ih _) ?_
      cases boundShorthand? a.name with
      | some shorthand => exact (SameResult.mapError _ _ _).bind fun _ _ => ih _
      | none => exact (ih _).bind fun _ _ => .refl _

theorem resolveAttributes_place (scope : Bindings) (seen : List Name)
    (attributes : List PlainAttribute) :
    SameResult (resolveAttributes scope whole seen attributes)
      (resolveAttributes scope whole' seen attributes) := by
  induction attributes generalizing seen with
  | nil => exact .refl _
  | cons a rest ih =>
    rw [resolveAttributes, resolveAttributes]
    rcases cutName a.name with ⟨_ | ⟨c, shorthand⟩, base⟩
    · exact (ih _).bind fun _ _ => .refl _
    · dsimp only
      cases scope.space? (c :: shorthand) with
      | none => exact .error _ _
      | some space =>
        refine .ite ?_ ((ih _).bind fun _ _ => .refl _)
        refine SameResult.bind (.error _ _) fun _ h => ?_
        cases h

theorem resolveElement_place (scope : Bindings) (name : List Char) :
    SameResult (resolveElement scope whole name) (resolveElement scope whole' name) := by
  unfold resolveElement
  rcases cutName name with ⟨_ | ⟨c, shorthand⟩, base⟩
  · exact .refl _
  · dsimp only
    cases scope.space? (c :: shorthand) with
    | none => exact .error _ _
    | some space => exact .refl _

theorem resolveTag_more (w : List Char) (scope : Bindings) (tag : RawTag) :
    SameResult (resolveTag d scope opened whole inEntity tag)
      (resolveTag d scope opened whole' inEntity (tag.more w)) := by
  refine (specified_more w tag.name [] scope tag.attributes).bind fun ⟨scope, given, seen⟩ _ => ?_
  refine (defaulted_place seen scope _).bind fun ⟨scope, extra⟩ _ => ?_
  refine (resolveAttributes_place scope [] _).bind fun attributes _ => ?_
  exact (resolveElement_place scope _).bind fun name _ => .refl _

end Tag

theorem addNode_more (w : List Char) (n : Node) (after : List Char) (frames : List Frame) :
    (addNode n after frames).more w = addNode n (after ++ w) frames := by
  cases frames <;> rfl

section Content

variable {d : Doctype} {opened : List (List Char)} {level level' : Level} {frames : List Frame}
  {on on' after after' w : List Char} {p : Progress}
  {enter enter' : List Char → List Char → Nat → List Frame → Except Failure Progress}

theorem openElement_more (hlevel : level.Alike level') {tag : RawTag}
    (h : openElement d opened level on tag after frames = .ok p) :
    openElement d opened level' on' (tag.more w) (after ++ w) frames = .ok (p.more w) := by
  have hentity : level'.isEntity = level.isEntity := by cases hlevel <;> rfl
  obtain ⟨⟨scope, name, attributes⟩, htag, h⟩ := bind_eq_ok.1 h
  refine bind_eq_ok.2 ⟨⟨scope, name, attributes⟩, ?_, ?_⟩
  · rw [hentity]
    exact resolveTag_more w _ tag _ htag
  · have hempty : (tag.more w).isEmpty = tag.isEmpty := rfl
    dsimp only at h ⊢
    rw [hempty]
    split at h
    · next hyes =>
      cases h
      rw [if_pos hyes, addNode_more]
      rfl
    · next hno =>
      cases h
      rw [if_neg hno]
      rfl

theorem closeElement_more (hlevel : level.Alike level') {name : List Char}
    (h : closeElement level on name after frames = .ok p) :
    closeElement level' on' name (after ++ w) frames = .ok (p.more w) := by
  cases frames with
  | nil => cases h
  | cons f outer =>
    have hname : ∀ place, (if f.rawName = name then .ok (addNode f.close after outer)
        else .error ⟨.mismatchedTag, place⟩ : Except Failure Progress) = .ok p →
        ∀ place', (if f.rawName = name then .ok (addNode f.close (after ++ w) outer)
          else .error ⟨.mismatchedTag, place'⟩ : Except Failure Progress) = .ok (p.more w) := by
      intro place hp place'
      split at hp
      · next hsame =>
        cases hp
        rw [if_pos hsame, addNode_more]
      · cases hp
    unfold closeElement at h ⊢
    cases hlevel with
    | document => exact hname _ h _
    | entity depth place place' =>
      dsimp only at h ⊢
      split at h
      · cases h
      · next houtermost =>
        rw [if_neg houtermost]
        exact hname _ h _

/-- A reference to an entity stands for the same wherever it is. -/
theorem readReference_more {name : List Char}
    (hkeeps : ∀ text place p, enter name text place frames = .ok p → p.more w = p)
    (henter : ∀ text place place',
      SameResult (enter name text place frames) (enter' name text place' frames))
    (h : readToken d opened level enter ⟨on, .reference (.entity name)⟩ after frames = .ok p) :
    readToken d opened level' enter' ⟨on', .reference (.entity name)⟩ after' frames =
      .ok (p.more w) := by
  unfold readToken at h ⊢
  dsimp only at h ⊢
  cases hnamed : namedCharacter? name with
  | some c =>
    rw [hnamed] at h
    cases h
    rfl
  | none =>
    rw [hnamed] at h
    cases hentity : d.entity? name with
    | none =>
      rw [hentity] at h
      cases h
    | some entity =>
      rw [hentity] at h
      dsimp only at h ⊢
      split at h
      · cases h
      · next hopened =>
        rw [if_neg hopened]
        cases entity with
        | unparsed | external => cases h
        | internal text =>
          rw [hkeeps text _ p h]
          exact henter text _ _ p h

/-- A token further from the end has the same effect. -/
theorem readToken_more (hlevel : level.Alike level') {t : Token}
    (hkeeps : ∀ name text place p, t.content = .reference (.entity name) →
      enter name text place frames = .ok p → p.more w = p)
    (henter : ∀ name text place place',
      SameResult (enter name text place frames) (enter' name text place' frames))
    (h : readToken d opened level enter t after frames = .ok p) :
    readToken d opened level' enter' (t.more w) (after ++ w) frames = .ok (p.more w) := by
  obtain ⟨on, content⟩ := t
  cases content with
  | char | cdata | ignored =>
    cases h
    rfl
  | finalBreak =>
    cases hlevel with
    | document => cases h
    | entity =>
      cases h
      rfl
  | declaration | broken => cases h
  | openTag tag => exact openElement_more hlevel h
  | closeTag name => exact closeElement_more hlevel h
  | reference ref =>
    cases ref with
    | character c =>
      cases c with
      | none => cases h
      | some c =>
        cases h
        rfl
    | entity name =>
      exact readReference_more (fun text place p => hkeeps name text place p rfl) (henter name) h

/-- What is read of an entity does not depend on the place it is referred to from. -/
theorem readTokens_place {depth place place' : Nat}
    (henter : ∀ name text place place' frames,
      SameResult (enter name text place frames) (enter' name text place' frames)) (ts : List Token) :
    SameResult (readTokens d opened (.entity depth place) enter ts frames)
      (readTokens d opened (.entity depth place') enter' ts frames) := by
  induction ts generalizing frames with
  | nil =>
    unfold readTokens finish
    exact .ite (.refl _) (.error _ _)
  | cons t rest ih =>
    intro p h
    rw [readTokens] at h ⊢
    cases hread : readToken d opened (.entity depth place) enter t
        ((rest.head?.map Token.on).getD []) frames with
    | error f =>
      rw [hread] at h
      cases h
    | ok q =>
      have hmore := readToken_more (w := []) (.entity depth place place')
        (fun _ _ _ p _ _ => p.more_nil) (fun name text place place' => henter name text place place' _)
        hread
      rw [t.more_nil, List.append_nil, q.more_nil] at hmore
      rw [hread] at h
      rw [hmore]
      cases q with
      | inside frames => exact ih p h
      | closed => exact h

end Content

theorem enterEntity_place (d : Doctype) (depth : Nat) (opened : List (List Char))
    (name text : List Char) (place place' : Nat) (frames : List Frame) :
    SameResult (enterEntity d depth opened name text place frames)
      (enterEntity d depth opened name text place' frames) := by
  induction depth generalizing opened name text place place' frames with
  | zero => exact .error _ _
  | succ depth ih =>
    exact readTokens_place (fun name text place place' frames => ih _ name text place place' frames) _

end RackElevation.Xml
