import RackElevation.Proofs.Text.Runs
import RackElevation.Text.Walk
import RackElevation.Xml.Lexeme

/-
  Lexemes and the text around them

  A lexeme is read from the front of a text. What it leaves is the end of the
  text, and so is what cannot go on with it. A lexeme that is found ends by
  itself, so it is the same with more blank text behind, which is left as well;
  a lexeme of the prolog may end with the text too, and then it is only the same
  if something is left.

  What is proved:
    1. `Lex.Steady.map`, `Lex.Steady.bind` — reading goes on from what was found.
    2. `steady_takeName`, `steady_comment`, `steady_instruction`,
       `steady_reference`, `steady_startTag`, `steady_endTag` — the lexemes.
-/

namespace RackElevation.Xml

open Text

/-! ## What a lexeme leaves -/

section Steady

variable {α β : Type}

/-- What reading a lexeme from `s` comes to, beside what it comes to with more text `w` behind: what
is left is the end of `s` and what is found fits it as `Q` says; with `w` behind the same is found, up
to the texts in it that `more` carries on, and `w` is left too. A loose lexeme may be another one if
nothing is left of `s`. -/
inductive Lex.Steady (loose : α → Prop) (w : List Char) (more : α → α) (Q : α → List Char → Prop)
    (s : List Char) : Lex α → Lex α → Prop
  | found {a : α} {rest : List Char} {y : Lex α} (hfound : Q a rest) (hrest : rest <:+ s)
      (hmore : (loose a → rest ≠ []) → y = .found (more a) (rest ++ w)) :
      Steady loose w more Q s (.found a rest) y
  | invalid {rest : List Char} {y : Lex α} (hrest : rest <:+ s) :
      Steady loose w more Q s (.invalid rest) y
  | cutShort {y : Lex α} : Steady loose w more Q s .cutShort y

/-- A lexeme that is never loose. -/
abbrev Lex.Fixed (w : List Char) (more : α → α) (Q : α → List Char → Prop) (s : List Char) :
    Lex α → Lex α → Prop :=
  Lex.Steady (fun _ => False) w more Q s

namespace Lex.Steady

variable {loose : α → Prop} {w s t : List Char} {more : α → α} {Q : α → List Char → Prop}
  {x y : Lex α}

theorem same {a : α} {rest : List Char} (hfound : Q a rest) (hrest : rest <:+ s) :
    Steady loose w more Q s (.found a rest) (.found (more a) (rest ++ w)) :=
  .found hfound hrest fun _ => rfl

theorem mapLoose {loose' : β → Prop} {more' : β → β} {Q' : β → List Char → Prop} {f g : α → β}
    (h : Steady loose w more Q s x y) (hmore : ∀ a, g (more a) = more' (f a))
    (hQ : ∀ a rest, Q a rest → Q' (f a) rest) (hloose : ∀ a, loose a → loose' (f a)) :
    Steady loose' w more' Q' s (x.map f) (y.map g) := by
  cases h with
  | found hfound hrest hy =>
    refine .found (hQ _ _ hfound) hrest fun hleft => ?_
    rw [hy fun hl => hleft (hloose _ hl), Lex.map, hmore]
  | invalid hrest => exact .invalid hrest
  | cutShort => exact .cutShort

theorem within (h : Steady loose w more Q s x y) (hs : s <:+ t) : Steady loose w more Q t x y := by
  cases h with
  | found hfound hrest hy => exact .found hfound (hrest.trans hs) hy
  | invalid hrest => exact .invalid (hrest.trans hs)
  | cutShort => exact .cutShort

theorem mono {Q' : α → List Char → Prop} (h : Steady loose w more Q s x y)
    (hQ : ∀ a rest, Q a rest → Q' a rest) : Steady loose w more Q' s x y := by
  cases h with
  | found hfound hrest hy => exact .found (hQ _ _ hfound) hrest hy
  | invalid hrest => exact .invalid hrest
  | cutShort => exact .cutShort

theorem map {loose' : β → Prop} {more' : β → β} {Q' : β → List Char → Prop} {f g : α → β} (h : x.Fixed w more Q s y)
    (hmore : ∀ a, g (more a) = more' (f a)) (hQ : ∀ a rest, Q a rest → Q' (f a) rest) :
    (x.map f).Steady loose' w more' Q' s (y.map g) :=
  mapLoose h hmore hQ fun _ hl => hl.elim

theorem bind {loose' : β → Prop} {more' : β → β} {Q' : β → List Char → Prop}
    {f g : α → List Char → Lex β} (h : x.Fixed w more Q s y)
    (hf : ∀ a rest, Q a rest → rest <:+ s →
      (f a rest).Steady loose' w more' Q' rest (g (more a) (rest ++ w))) :
    (x.bind f).Steady loose' w more' Q' s (y.bind g) := by
  cases h with
  | @found a rest y hfound hrest hy =>
    have hnext := (hf a rest hfound hrest).within hrest
    rw [hy False.elim]
    exact hnext
  | invalid hrest => exact .invalid hrest
  | cutShort => exact .cutShort

end Lex.Steady

end Steady

/-! ## Runs -/

section Runs

variable {p : Char → Bool} {s w : List Char}

/-- Text behind that does not go on with a run leaves it as it is. -/
theorem takeWhile_more (hw : ∀ c ∈ w.head?, p c = false) : (s ++ w).takeWhile p = s.takeWhile p := by
  induction s with
  | nil => exact @takeWhile_run _ p [] w (fun _ h => nomatch h) hw
  | cons c s ih => rw [List.cons_append, List.takeWhile_cons, List.takeWhile_cons, ih]

theorem dropWhile_more (hw : ∀ c ∈ w.head?, p c = false) :
    (s ++ w).dropWhile p = s.dropWhile p ++ w := by
  induction s with
  | nil => exact @dropWhile_run _ p [] w (fun _ h => nomatch h) hw
  | cons c s ih =>
    rw [List.cons_append, List.dropWhile_cons, List.dropWhile_cons, ih]
    split <;> rfl

/-- So does any text behind a run that ends before. -/
theorem dropWhile_ended {c : Char} {r : List Char} (h : s.dropWhile p = c :: r) :
    (s ++ w).dropWhile p = c :: (r ++ w) := by
  rw [List.dropWhile_append, h]
  rfl

theorem takeWhile_ended {c : Char} {r : List Char} (h : s.dropWhile p = c :: r) :
    (s ++ w).takeWhile p = s.takeWhile p := by
  have hlength := congrArg List.length (List.takeWhile_append_dropWhile (p := p) (l := s))
  rw [List.length_append, h, List.length_cons] at hlength
  rw [List.takeWhile_append, if_neg (by omega)]

theorem suffix_of_dropWhile {c : Char} {r : List Char} (h : s.dropWhile p = c :: r) : c :: r <:+ s :=
  h ▸ List.dropWhile_suffix p

/-- Skipping what lies before the end of a text leaves that end. -/
theorem suffix_of_skip {c : Char} {r rest : List Char} (h : rest <:+ c :: r) :
    r.drop (r.length - rest.length) <:+ rest := by
  rcases List.suffix_cons_iff.1 h with rfl | h
  · exact (List.drop_suffix _ r).trans (List.suffix_cons c r)
  · exact ⟨[], (List.suffix_iff_eq_drop.1 h).symm⟩

/-- As much is skipped with more text behind. -/
theorem skip_append (r rest w : List Char) :
    (r ++ w).drop ((r ++ w).length - (rest ++ w).length) = r.drop (r.length - rest.length) ++ w := by
  rw [List.length_append, List.length_append, Nat.add_sub_add_right,
    List.drop_append_of_le_length (Nat.sub_le _ _)]

theorem length_skip_lt (c : Char) (r : List Char) (n : Nat) : (r.drop n).length < (c :: r).length := by
  rw [List.length_drop, List.length_cons]
  omega

end Runs

/-! ## Walks -/

section Walks

variable {α : Type} {step : Char → List Char → α × Nat}

theorem walkFrom_skip (n : Nat) (s : List Char) : walkFrom step n s = walk step (s.drop n) := by
  induction s generalizing n with
  | nil => cases n <;> rfl
  | cons c r ih =>
    cases n with
    | zero => rfl
    | succ n => exact ih n

theorem walk_cons (c : Char) (r : List Char) :
    walk step (c :: r) = (step c r).1 :: walk step (r.drop (step c r).2) := by
  rw [walk, walkFrom, walkFrom_skip]

/-- What holds of the find at each place holds of all finds. -/
theorem walk_forall {P : α → Prop} {s : List Char}
    (h : ∀ c r, c :: r <:+ s → P (step c r).1) : ∀ a ∈ walk step s, P a := by
  have hfrom : ∀ n, ∀ a ∈ walkFrom step n s, P a := by
    induction s with
    | nil => exact fun n a ha => by cases n <;> exact absurd ha List.not_mem_nil
    | cons c r ih =>
      have hrest := ih fun d t ht => h d t (ht.trans (List.suffix_cons c r))
      intro n
      cases n with
      | zero =>
        rw [walkFrom, List.forall_mem_cons]
        exact ⟨h c r (List.suffix_refl _), hrest _⟩
      | succ n => exact hrest n
  exact hfrom 0

end Walks

/-! ## Blanks -/

theorem isNameChar_of_isBlank {c : Char} (h : isBlank c = true) : isNameChar c = false := by
  have hblanks : ∀ r ∈ blankRanges, ∀ n < 13, r.1 + n ≤ r.2 →
      isNameChar (Char.ofNat (r.1 + n)) = false := by decide +kernel
  obtain ⟨r, hr, hc⟩ := List.any_eq_true.1 h
  simp only [Bool.and_eq_true, decide_eq_true_eq] at hc
  have hshort : ∀ r ∈ blankRanges, r.2 < r.1 + 13 := by decide
  have hlt := hshort r hr
  have hname := hblanks r hr (c.toNat - r.1) (by omega) (by omega)
  rwa [Nat.add_sub_cancel' hc.1, Char.ofNat_toNat] at hname

/-- A character that is not blank stands before the blanks behind a text. -/
theorem head_more {w s : List Char} (hw : Blanks w) {c : Char} (hc : isBlank c = false)
    (h : (s ++ w).head? = some c) : s.head? = some c := by
  cases s with
  | nil =>
    have := hw c (List.mem_of_mem_head? h)
    rw [hc] at this
    cases this
  | cons d s => exact h

theorem head_isNameChar {w : List Char} (hw : Blanks w) : ∀ c ∈ w.head?, isNameChar c = false :=
  fun c hc => isNameChar_of_isBlank (hw c (List.mem_of_mem_head? hc))

/-! ## Comments and instructions -/

section Lexemes

variable {w : List Char} (hw : Blanks w)

include hw

theorem steady_takeName (s : List Char) :
    (takeName s).Fixed w id (fun name rest => name ++ rest = s) s (takeName (s ++ w)) := by
  cases s with
  | nil => exact .cutShort
  | cons c r =>
    rw [List.cons_append, takeName, takeName]
    split
    · rw [takeWhile_more (head_isNameChar hw), dropWhile_more (head_isNameChar hw)]
      refine .same ?_ ((List.dropWhile_suffix _).trans (List.suffix_cons c r))
      rw [List.cons_append, List.takeWhile_append_dropWhile]
    · exact .invalid (List.suffix_refl _)

omit hw in
theorem commentBody_cons {c : Char} {r : List Char} (h : ¬(c = '-' ∧ r.head? = some '-')) :
    commentBody (c :: r) = if isLegal c then commentBody r else .invalid (c :: r) := by
  rw [commentBody.eq_5]
  all_goals
    intros
    simp_all

omit hw in
theorem commentBody_dashes {c : Char} (h : c ≠ '>') (r : List Char) :
    commentBody ('-' :: '-' :: c :: r) = .invalid (c :: r) := by
  rw [commentBody.eq_3]
  simp [h]

theorem steady_commentBody (s : List Char) :
    (commentBody s).Fixed w id (fun _ _ => True) s (commentBody (s ++ w)) := by
  induction s with
  | nil => exact .cutShort
  | cons c r ih =>
    by_cases hdash : c = '-' ∧ r.head? = some '-'
    · -- two hyphens end the comment or are a fault
      obtain ⟨rfl, hhead⟩ := hdash
      obtain ⟨t, rfl⟩ := List.head?_eq_some_iff.1 hhead
      rcases t with _ | ⟨d, t⟩
      · exact .cutShort
      · by_cases hd : d = '>'
        · subst hd
          exact .same trivial (List.suffix_append ['-', '-', '>'] t)
        · rw [commentBody_dashes hd]
          exact .invalid (List.suffix_append ['-', '-'] (d :: t))
    · have hmore : ¬(c = '-' ∧ (r ++ w).head? = some '-') :=
        fun h => hdash ⟨h.1, head_more hw (by decide) h.2⟩
      rw [List.cons_append, commentBody_cons hdash, commentBody_cons hmore]
      split
      · exact ih.within (List.suffix_cons c r)
      · exact .invalid (List.suffix_refl _)

theorem steady_comment (s : List Char) :
    (comment s).Fixed w id (fun _ _ => True) s (comment (s ++ w)) := by
  cases s with
  | nil => exact .cutShort
  | cons c r =>
    by_cases hc : c = '-'
    · subst hc
      exact (steady_commentBody hw r).within (List.suffix_cons '-' r)
    · rw [comment.eq_3 _ (by simp) (by simpa using hc)]
      exact .invalid (List.suffix_refl _)

omit hw in
theorem instructionBody_cons {c : Char} {r : List Char} (h : ¬(c = '?' ∧ r.head? = some '>')) :
    instructionBody (c :: r) = if isLegal c then instructionBody r else .invalid (c :: r) := by
  rw [instructionBody.eq_3]
  intros
  simp_all

theorem steady_instructionBody (s : List Char) :
    (instructionBody s).Fixed w id (fun _ rest => rest.length + 2 ≤ s.length) s
      (instructionBody (s ++ w)) := by
  induction s with
  | nil => exact .cutShort
  | cons c r ih =>
    by_cases hend : c = '?' ∧ r.head? = some '>'
    · obtain ⟨rfl, hhead⟩ := hend
      obtain ⟨t, rfl⟩ := List.head?_eq_some_iff.1 hhead
      exact .same (Nat.le_refl _) (List.suffix_append ['?', '>'] t)
    · have hmore : ¬(c = '?' ∧ (r ++ w).head? = some '>') :=
        fun h => hend ⟨h.1, head_more hw (by decide) h.2⟩
      rw [List.cons_append, instructionBody_cons hend, instructionBody_cons hmore]
      split
      · exact (ih.within (List.suffix_cons c r)).mono fun _ _ h => Nat.le_succ_of_le h
      · exact .invalid (List.suffix_refl _)

theorem steady_instruction (s : List Char) :
    (instruction s).Fixed w id (fun isDeclaration rest => rest.length + 2 ≤ s.length ∧
      (isDeclaration = true → ['x', 'm', 'l'] <+: s)) s (instruction (s ++ w)) := by
  refine (steady_takeName hw s).bind fun target rest happend hrest => ?_
  have hword : isDeclarationTarget target = true → ['x', 'm', 'l'] <+: s := by
    intro htarget
    exact ⟨rest, by rw [← happend, beq_iff_eq.1 htarget]⟩
  cases rest with
  | nil => exact .cutShort
  | cons c r =>
    have hlength := hrest.length_le
    rw [List.cons_append]
    dsimp only [id]
    split
    · split
      · exact .invalid (List.suffix_refl _)
      split
      · refine ((steady_instructionBody hw r).within (List.suffix_cons c r)).map (fun _ => rfl) ?_
        intro _ rest h
        exact ⟨Nat.le_trans h (Nat.le_of_succ_le hlength), hword⟩
      · split
        · exact .cutShort
        · exact .same ⟨hlength, hword⟩ (List.suffix_append [c, '>'] _)
        · exact .invalid (List.suffix_cons c _)
    · exact .invalid (List.suffix_refl _)

/-! ## References -/

omit hw in
theorem steady_characterNumber (base : Nat) (isDigit : Char → Bool) (s : List Char) :
    (characterNumber base isDigit s).Fixed w id (fun _ _ => True) s
      (characterNumber base isDigit (s ++ w)) := by
  unfold characterNumber
  cases hrest : s.dropWhile isDigit with
  | nil => exact .cutShort
  | cons c r =>
    have hs := suffix_of_dropWhile hrest
    rw [dropWhile_ended hrest, takeWhile_ended hrest]
    cases s.takeWhile isDigit with
    | nil => exact .invalid hs
    | cons d digits =>
      split
      · next heq => cases heq
      · next heq _ => cases heq
      · next heq _ =>
        cases heq
        exact .same trivial ((List.suffix_cons ';' _).trans hs)
      · exact .invalid hs

theorem steady_reference (s : List Char) :
    (reference s).Fixed w id (fun _ _ => True) s (reference (s ++ w)) := by
  by_cases hhash : s.head? = some '#'
  · obtain ⟨r, rfl⟩ := List.head?_eq_some_iff.1 hhash
    by_cases hhex : r.head? = some 'x'
    · obtain ⟨r, rfl⟩ := List.head?_eq_some_iff.1 hhex
      exact (steady_characterNumber 16 _ r).within (List.suffix_append ['#', 'x'] r)
    · have hdecimal : ∀ t : List Char, t.head? ≠ some 'x' →
          reference ('#' :: t) = characterNumber 10 Char.isDigit t := by
        intro t ht
        rw [reference.eq_2]
        intro u hu
        simp [hu] at ht
      rw [List.cons_append, hdecimal r hhex,
        hdecimal (r ++ w) fun h => hhex (head_more hw (by decide) h)]
      exact (steady_characterNumber 10 _ r).within (List.suffix_cons '#' r)
  · have hno : ∀ t : List Char, t.head? ≠ some '#' → ∀ r, t ≠ '#' :: r := by
      intro t ht r hr
      rw [hr] at ht
      exact ht rfl
    have hs := hno s hhash
    have hsw := hno (s ++ w) fun h => hhash (head_more hw (by decide) h)
    rw [reference.eq_3 s (fun r => hs ('x' :: r)) hs,
      reference.eq_3 (s ++ w) (fun r => hsw ('x' :: r)) hsw]
    refine (steady_takeName hw s).bind fun name rest _ _ => ?_
    split
    · exact .cutShort
    · exact .same trivial (List.suffix_cons ';' _)
    · exact .invalid (List.suffix_refl _)

/-! ## Tags -/

theorem steady_qualifiedName (s : List Char) :
    (qualifiedName s).Fixed w id (fun _ _ => True) s (qualifiedName (s ++ w)) := by
  refine (steady_takeName hw s).bind fun first rest hname _ => ?_
  clear hname
  split
  · next r _ =>
    exact ((steady_takeName hw r).within (List.suffix_cons ':' r)).map (fun _ => rfl)
      fun _ _ _ => trivial
  · next hcolon =>
    split
    · next heq =>
      -- the colon would be one of the blanks
      have hhead := head_more (c := ':') (s := rest) hw (by decide) (by rw [heq]; rfl)
      obtain ⟨r, rfl⟩ := List.head?_eq_some_iff.1 hhead
      exact absurd rfl (hcolon r)
    · exact .same trivial (List.suffix_refl _)

omit hw in
theorem steady_valueUpTo (quote : Char) (state : RefState) (s : List Char) :
    (valueUpTo quote state s).Fixed w id
      (fun value rest => value.length + rest.length + 1 ≤ s.length) s
      (valueUpTo quote state (s ++ w)) := by
  induction s generalizing state with
  | nil => exact .cutShort
  | cons c r ih =>
    rw [List.cons_append, valueUpTo, valueUpTo]
    split
    · exact .same (by simp) (List.suffix_cons c r)
    · split
      · next state _ =>
        refine ((ih state).within (List.suffix_cons c r)).map (fun _ => rfl) ?_
        intro value rest h
        simp only [List.length_cons]
        omega
      · exact .invalid (List.suffix_refl _)

omit hw in
theorem steady_quotedValue (s : List Char) :
    (quotedValue s).Fixed w id (fun value rest => value.length + rest.length + 2 ≤ s.length) s
      (quotedValue (s ++ w)) := by
  unfold quotedValue
  cases hrest : s.dropWhile isSpace with
  | nil => exact .cutShort
  | cons c r =>
    have hs := suffix_of_dropWhile hrest
    have hlength := hs.length_le
    rw [dropWhile_ended hrest]
    dsimp only
    split
    · refine ((steady_valueUpTo c .outside r).within ((List.suffix_cons c r).trans hs)).mono ?_
      intro value rest h
      rw [List.length_cons] at hlength
      omega
    · exact .invalid hs

omit hw

/-- The texts in an attribute go on behind it. -/
def RawAttribute.more (w : List Char) (a : RawAttribute) : RawAttribute :=
  { a with nameOn := a.nameOn ++ w, valueEnd := a.valueEnd ++ w }

/-- An attribute lies in a text of so many characters. -/
structure RawAttribute.Within (n : Nat) (a : RawAttribute) : Prop where
  name : a.nameOn.length ≤ n
  value : a.value.length + a.valueEnd.length ≤ n

theorem RawAttribute.Within.mono {m n : Nat} {a : RawAttribute} (h : a.Within m) (hle : m ≤ n) :
    a.Within n := ⟨Nat.le_trans h.name hle, Nat.le_trans h.value hle⟩

include hw in
theorem steady_rawAttribute (s : List Char) :
    (rawAttribute s).Fixed w (RawAttribute.more w) (fun a _ => a.Within s.length) s
      (rawAttribute (s ++ w)) := by
  refine (steady_qualifiedName hw s).bind fun name rest _ hrest => ?_
  cases hequals : rest.dropWhile isSpace with
  | nil => exact .cutShort
  | cons c r =>
    have hs := suffix_of_dropWhile hequals
    have hlength := (hs.trans hrest).length_le
    rw [dropWhile_ended hequals]
    split
    · next heq => cases heq
    · next heq =>
      cases heq
      refine ((steady_quotedValue r).within ((List.suffix_cons '=' r).trans hs)).bind ?_
      intro value rest' hvalue hrest'
      rw [List.length_cons] at hlength
      have hshorter : r.length - rest'.length - 1 ≤ r.length := by omega
      have hend : (r ++ w).drop ((r ++ w).length - (rest' ++ w).length - 1) =
          r.drop (r.length - rest'.length - 1) ++ w := by
        rw [List.length_append, List.length_append, Nat.add_sub_add_right,
          List.drop_append_of_le_length hshorter]
      have hmore : (⟨id name, s ++ w, id value,
          (r ++ w).drop ((r ++ w).length - (rest' ++ w).length - 1)⟩ : RawAttribute) =
          RawAttribute.more w ⟨name, s, value, r.drop (r.length - rest'.length - 1)⟩ := by
        rw [hend]
        rfl
      rw [hmore]
      refine .same ⟨Nat.le_refl _, ?_⟩ (List.suffix_refl _)
      show value.length + (r.drop (r.length - rest'.length - 1)).length ≤ s.length
      rw [List.length_drop]
      omega
    · exact .invalid hs

theorem steady_tagEnd (s : List Char) :
    (tagEnd s).Fixed w id (fun _ _ => True) s (tagEnd (s ++ w)) := by
  unfold tagEnd
  split
  · exact .cutShort
  · exact .same trivial (List.suffix_cons '>' _)
  · exact .cutShort
  · exact .same trivial (List.suffix_append ['/', '>'] _)
  · exact .invalid (List.suffix_cons '/' _)
  · exact .invalid (List.suffix_refl _)

theorem steady_afterTagPart (s : List Char) :
    (afterTagPart s).Fixed w id (fun _ _ => True) s (afterTagPart (s ++ w)) := by
  cases s with
  | nil => exact .cutShort
  | cons c r =>
    have hend := @steady_tagEnd w (c :: r)
    rw [List.cons_append] at hend ⊢
    unfold afterTagPart
    dsimp only
    split
    · cases hrest : (c :: r).dropWhile isSpace with
      | nil => exact .cutShort
      | cons d t =>
        have hs := suffix_of_dropWhile hrest
        have hended := dropWhile_ended (w := w) hrest
        rw [List.cons_append] at hended
        rw [hended]
        dsimp only
        split
        · exact .same trivial hs
        · have hend := @steady_tagEnd w (d :: t)
          exact (hend.within hs).map (fun _ => rfl) fun _ _ h => h
    · exact hend.map (fun _ => rfl) fun _ _ h => h

theorem attributesFrom_skip (n : Nat) (s : List Char) :
    attributesFrom n s = attributesFrom 0 (s.drop n) := by
  induction s generalizing n with
  | nil => cases n <;> rfl
  | cons c r ih =>
    cases n with
    | zero => rfl
    | succ n => exact ih n

/-- An attribute, what follows it and, if that is another one, the attributes from there on. -/
theorem attributesFrom_cons (c : Char) (r : List Char) :
    attributesFrom 0 (c :: r) = (rawAttribute (c :: r)).bind fun a rest =>
      (afterTagPart rest).bind fun more rest =>
        match more with
        | some isEmpty => .found ([a], isEmpty) rest
        | none => (attributesFrom 0 (r.drop (r.length - rest.length))).map
            fun (l, isEmpty) => (a :: l, isEmpty) := by
  rw [attributesFrom]
  cases rawAttribute (c :: r) with
  | found a rest =>
    rw [Lex.bind]
    dsimp only
    cases afterTagPart rest with
    | found more rest' =>
      cases more with
      | some isEmpty => rfl
      | none =>
        show (attributesFrom (r.length - rest'.length) r).map _ = _
        rw [attributesFrom_skip]
        rfl
    | invalid => rfl
    | cutShort => rfl
  | invalid => rfl
  | cutShort => rfl

include hw in
theorem steady_attributesFrom (s : List Char) :
    (attributesFrom 0 s).Fixed w (fun p => (p.1.map (RawAttribute.more w), p.2))
      (fun p _ => ∀ a ∈ p.1, a.Within s.length) s (attributesFrom 0 (s ++ w)) := by
  induction hn : s.length using Nat.strongRecOn generalizing s with
  | ind n ih =>
    subst hn
    cases s with
    | nil => exact .cutShort
    | cons c r =>
      rw [List.cons_append, attributesFrom_cons, attributesFrom_cons, ← List.cons_append]
      refine (steady_rawAttribute hw (c :: r)).bind fun a rest ha hrest => ?_
      refine (steady_afterTagPart rest).bind fun more rest' _ hrest' => ?_
      cases more with
      | some isEmpty =>
        refine .same (fun b hb => ?_) (List.suffix_refl _)
        rw [List.mem_singleton.1 hb]
        exact ha
      | none =>
        have hnext := suffix_of_skip (hrest'.trans hrest)
        have hshort : (r.drop (r.length - rest'.length)).length ≤ r.length := by simp
        dsimp only [id]
        rw [skip_append]
        refine ((ih _ (Nat.lt_succ_of_le hshort) _ rfl).within hnext).map (fun _ => rfl) ?_
        intro p _ hp b hb
        rcases List.mem_cons.1 hb with rfl | hb
        · exact ha
        · exact (hp b hb).mono (Nat.le_succ_of_le hshort)

/-- The texts in the attributes of a tag go on behind it. -/
def RawTag.more (w : List Char) (t : RawTag) : RawTag :=
  { t with attributes := t.attributes.map (RawAttribute.more w) }

include hw in
theorem steady_startTag (s : List Char) :
    (startTag s).Fixed w (RawTag.more w) (fun t _ => ∀ a ∈ t.attributes, a.Within s.length) s
      (startTag (s ++ w)) := by
  refine (steady_qualifiedName hw s).bind fun name rest _ hrest => ?_
  refine (steady_afterTagPart rest).bind fun more rest' _ hrest' => ?_
  cases more with
  | some isEmpty => exact .same (fun a ha => nomatch ha) (List.suffix_refl _)
  | none =>
    refine (steady_attributesFrom hw rest').map (fun _ => rfl) ?_
    intro p _ hp a ha
    exact (hp a ha).mono (hrest'.trans hrest).length_le

include hw in
theorem steady_endTag (s : List Char) :
    (endTag s).Fixed w id (fun _ _ => True) s (endTag (s ++ w)) := by
  cases s with
  | nil => exact .cutShort
  | cons c r =>
    have hends : ∀ d ∈ w.head?, (isNameChar d || d == ':') = false := by
      intro d hd
      have hcolon : d ≠ ':' := by
        rintro rfl
        exact absurd (hw ':' (List.mem_of_mem_head? hd)) (by decide)
      rw [head_isNameChar hw d hd, Bool.false_or, beq_eq_false_iff_ne]
      exact hcolon
    rw [List.cons_append, endTag, endTag]
    split
    · dsimp only
      rw [takeWhile_more hends, dropWhile_more hends]
      have hname : r.dropWhile (fun d => isNameChar d || d == ':') <:+ c :: r :=
        (List.dropWhile_suffix _).trans (List.suffix_cons c r)
      revert hname
      generalize r.dropWhile (fun d => isNameChar d || d == ':') = s'
      intro hname
      cases hrest : s'.dropWhile isSpace with
      | nil => exact .cutShort
      | cons d t =>
        have hs := (suffix_of_dropWhile hrest).trans hname
        rw [dropWhile_ended hrest]
        split
        · next heq => cases heq
        · next heq =>
          cases heq
          exact .same trivial ((List.suffix_cons '>' _).trans hs)
        · exact .invalid hs
    · exact .invalid (List.suffix_refl _)

end Lexemes

end RackElevation.Xml
