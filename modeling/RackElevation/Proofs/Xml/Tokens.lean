import RackElevation.Proofs.Xml.Marks
import RackElevation.Xml.Content

/-
  Tokens and the text around them

  A token of content is the same with more blank text behind, unless it is broken
  or a lone CR at the end of the text. What it leaves is the end of the text, and
  the places in it lie in the text.

  What is proved:
    1. `cdataBody_more`, `cdata_goesOn` — sections of character data.
    2. `contentAt_goesOn` — the tokens.
    3. `tokens_within` — each token and all texts in it lie in the text.
-/

namespace RackElevation.Xml

open Text

/-- The texts in a part of content go on behind it. -/
def Content.more (w : List Char) : Content → Content
  | .openTag tag => .openTag (tag.more w)
  | c => c

/-- The places in a part of content lie in a text of so many characters. -/
def Content.Within (n : Nat) : Content → Prop
  | .openTag tag => ∀ a ∈ tag.attributes, a.Within n
  | .broken _ on => on.length ≤ n
  | _ => True

theorem Content.Within.mono {m n : Nat} {c : Content} (h : c.Within m) (hle : m ≤ n) :
    c.Within n := by
  cases c with
  | openTag tag => exact fun a ha => (h a ha).mono hle
  | broken => exact Nat.le_trans h hle
  | _ => trivial

/-- What is read from `s`, beside what is read with `w` behind. -/
inductive GoesOn (w s : List Char) : Content × List Char → Content × List Char → Prop
  | same {c : Content} {rest : List Char} (hc : c.Within s.length) (hrest : rest <:+ s) :
      GoesOn w s (c, rest) (c.more w, rest ++ w)
  | broken {fault : Fault} {on : List Char} {y : Content × List Char} (hon : on.length ≤ s.length) :
      GoesOn w s (.broken fault on, []) y
  | finalBreak {y : Content × List Char} : GoesOn w s (.finalBreak, []) y

section Tokens

variable {w s : List Char}

theorem goesOn_ofLex {α : Type} {more : α → α} {Q : α → List Char → Prop} {t on on' : List Char}
    {x y : Lex α} {f : α → Content} (h : x.Fixed w more Q t y) (ht : t <:+ s)
    (hon : on.length ≤ s.length) (hmore : ∀ a, f (more a) = (f a).more w)
    (hwithin : ∀ a rest, Q a rest → (f a).Within s.length) :
    GoesOn w s (ofLex on f x) (ofLex on' f y) := by
  cases h with
  | found hfound hrest hy =>
    rw [hy False.elim, ofLex, ofLex, hmore]
    exact .same (hwithin _ _ hfound) (hrest.trans ht)
  | invalid hrest => exact .broken (hrest.trans ht).length_le
  | cutShort => exact .broken hon

/-! ## Sections of character data -/

/-- What is read of a section from `s`, beside what is read with `w` behind. -/
inductive SectionGoesOn (w s : List Char) :
    Except (Fault × List Char) (List Char × List Char) →
    Except (Fault × List Char) (List Char × List Char) → Prop
  | ok {text rest : List Char} (hrest : rest <:+ s) :
      SectionGoesOn w s (.ok (text, rest)) (.ok (text, rest ++ w))
  | error {fault : Fault} {on : List Char}
      {y : Except (Fault × List Char) (List Char × List Char)} (hon : on <:+ s) :
      SectionGoesOn w s (.error (fault, on)) y

theorem SectionGoesOn.cons {t : List Char} {x y : Except (Fault × List Char) (List Char × List Char)}
    (h : SectionGoesOn w t x y) (ht : t <:+ s) (c : Char) :
    SectionGoesOn w s (x.map fun (text, rest) => (c :: text, rest))
      (y.map fun (text, rest) => (c :: text, rest)) := by
  cases h with
  | ok hrest => exact .ok (hrest.trans ht)
  | error hon => exact .error (hon.trans ht)

theorem cdataBody_goesOn (hw : Blanks w) (s : List Char) :
    SectionGoesOn w s (cdataBody s) (cdataBody (s ++ w)) := by
  fun_induction cdataBody s with
  | case1 => exact .error (List.suffix_refl _)
  | case2 r => exact .ok (List.suffix_append [']', ']', '>'] r)
  | case3 => exact .error (List.suffix_refl _)
  | case4 => exact .error (List.suffix_refl _)
  | case5 => exact .error (List.suffix_refl _)
  | case6 r ih => exact ih.cons (List.suffix_append ['\r', '\n'] r) '\n'
  | case7 c r hend htwo hone hreturn hbreak hlegal ih =>
    have hnil : r ++ w = [] → r = [] := fun h => (List.append_eq_nil_iff.1 h).1
    show SectionGoesOn w (c :: r) _ (cdataBody (c :: (r ++ w)))
    rw [cdataBody.eq_7 c (r ++ w), if_pos hlegal]
    · exact ih.cons (List.suffix_cons c r) _
    · exact fun t hc hr => sectionEnd_more hw (fun u hu => hend u hc hu) t hr
    · exact fun hc hr => lastBracket_more hw (htwo hc) hr
    · exact fun hc hr => hone hc (hnil hr)
    · exact fun hc hr => hreturn hc (hnil hr)
    · intro t hc hr
      cases r with
      | nil => exact hreturn hc rfl
      | cons d r => exact hbreak r hc (by rw [(List.cons.inj hr).1])
  | case8 c r hend htwo hone hreturn hbreak hlegal => exact .error (List.suffix_refl _)

theorem dropCommon_suffix (s word : List Char) : (dropCommon s word).1 <:+ s := by
  induction s generalizing word with
  | nil => exact List.suffix_refl _
  | cons c r ih =>
    cases word with
    | nil => exact List.suffix_refl _
    | cons d word =>
      rw [dropCommon]
      split
      · exact (ih word).trans (List.suffix_cons c r)
      · exact List.suffix_refl _

/-- If nothing is left of a word, the text starts with it. -/
theorem dropCommon_nil {s word : List Char} (h : (dropCommon s word).2 = []) :
    s = word ++ (dropCommon s word).1 := by
  induction s generalizing word with
  | nil =>
    cases word with
    | nil => rfl
    | cons d word => cases h
  | cons c r ih =>
    cases word with
    | nil => rfl
    | cons d word =>
      rw [dropCommon] at h ⊢
      split at h
      · next hc =>
        rw [if_pos hc, hc, List.cons_append, ← ih h]
      · cases h

theorem cdata_word_ok {s text rest : List Char} (h : cdataBody s = .ok (text, rest)) :
    cdata (cdataWord ++ s) = (.cdata text, rest) := by
  have hword : dropCommon (cdataWord ++ s) cdataWord = (s, []) := by
    cases s <;> simp [dropCommon, cdataWord]
  have hlength : ¬(Utf8.encode ((cdataWord ++ s).take 6)).length < 6 := Nat.lt_irrefl 6
  rw [cdata, if_neg hlength, hword]
  dsimp only
  rw [h]

/-- A section that is complete is the same with more text behind. -/
theorem cdata_goesOn (hw : Blanks w) (s : List Char) :
    (∃ text rest, rest <:+ s ∧ cdata s = (.cdata text, rest) ∧
      cdata (s ++ w) = (.cdata text, rest ++ w)) ∨
    ∃ fault on, on.length ≤ s.length ∧ cdata s = (.broken fault on, []) := by
  unfold cdata
  split
  · exact .inr ⟨_, _, Nat.zero_le _, rfl⟩
  · split
    · next rest hword =>
      have hs := @dropCommon_nil s cdataWord (by rw [hword])
      rw [hword] at hs
      subst hs
      have hbody := cdataBody_goesOn hw rest
      generalize hx : cdataBody rest = x at hbody
      generalize hy : cdataBody (rest ++ w) = y at hbody
      cases hbody with
      | @ok text rest' hrest =>
        refine .inl ⟨text, rest', hrest.trans (List.suffix_append _ _), rfl, ?_⟩
        rw [List.append_assoc]
        exact cdata_word_ok hy
      | @error fault on _ hon =>
        exact .inr ⟨fault, on, (hon.trans (List.suffix_append _ _)).length_le, rfl⟩
    · next rest _ hword =>
      have hsuffix := dropCommon_suffix s cdataWord
      rw [hword] at hsuffix
      exact .inr ⟨_, _, hsuffix.length_le, rfl⟩

/-! ## Markup -/

theorem markup_goesOn (hw : Blanks w) {on on' r : List Char} (hr : r <:+ s)
    (hon : on.length ≤ s.length) : GoesOn w s (markup on r) (markup on' (r ++ w)) := by
  unfold markup
  split
  · exact .broken hon
  · exact .broken hon
  · next r =>
    exact goesOn_ofLex (steady_comment hw r) ((List.suffix_append ['!', '-'] r).trans hr) hon
      (fun _ => rfl) fun _ _ _ => trivial
  · next r =>
    have hr := (List.suffix_append ['!', '['] r).trans hr
    rcases cdata_goesOn hw r with ⟨text, rest, hrest, hx, hy⟩ | ⟨fault, on'', hshort, hx⟩
    · show GoesOn w s _ (markup on' ('!' :: '[' :: (r ++ w)))
      rw [markup.eq_4, hx, hy]
      exact .same trivial (hrest.trans hr)
    · have hon' := Nat.le_trans hshort hr.length_le
      rw [hx]
      cases fault with
      | unclosedToken => exact .broken hon
      | _ => exact .broken hon'
  · next r _ _ _ =>
    exact .broken ((List.suffix_cons '!' r).trans hr).length_le
  · next r =>
    refine goesOn_ofLex (steady_instruction hw r) ((List.suffix_cons '?' r).trans hr) hon ?_ ?_
    · intro isDeclaration
      cases isDeclaration <;> rfl
    · intro isDeclaration _ _
      cases isDeclaration <;> trivial
  · next r =>
    exact goesOn_ofLex (steady_endTag hw r) ((List.suffix_cons '/' r).trans hr) hon (fun _ => rfl)
      fun _ _ _ => trivial
  · next hnil hone hcomment hsection hbang hquestion hslash =>
    have hmore : ∀ c, isBlank c = false → (∀ t, r = c :: t → False) → ∀ t, r ++ w = c :: t → False := by
      intro c hc hno t ht
      obtain ⟨u, hu⟩ := List.head?_eq_some_iff.1 (head_more (c := c) (s := r) hw hc (by rw [ht]; rfl))
      exact hno u hu
    have hbang := hmore '!' (by decide) hbang
    show GoesOn w s _ (markup on' (r ++ w))
    rw [markup.eq_8 on' (r ++ w)]
    · exact goesOn_ofLex (steady_startTag hw r) hr hon (fun _ => rfl)
        fun _ _ h a ha => (h a ha).mono hr.length_le
    · exact fun h => hnil (List.append_eq_nil_iff.1 h).1
    · exact fun h => hbang [] h
    · exact fun t h => hbang ('-' :: t) h
    · exact fun t h => hbang ('[' :: t) h
    · exact hbang
    · exact hmore '?' (by decide) hquestion
    · exact hmore '/' (by decide) hslash

theorem contentAt_goesOn (hw : Blanks w) (c : Char) (r : List Char) :
    GoesOn w (c :: r) (contentAt c r) (contentAt c (r ++ w)) := by
  have hr := List.suffix_cons c r
  unfold contentAt
  split
  · exact markup_goesOn hw hr (Nat.le_refl _)
  · exact goesOn_ofLex (steady_reference hw r) hr (Nat.le_refl _) (fun _ => rfl)
      fun _ _ _ => trivial
  · next r => exact .broken ((List.suffix_cons ']' _).trans hr).length_le
  · exact .finalBreak
  · next r => exact .same trivial ((List.suffix_cons '\n' r).trans hr)
  · next hnil hbreak =>
    show GoesOn w _ _ (contentAt '\r' (r ++ w))
    rw [contentAt.eq_6 (r ++ w)]
    · exact .same trivial hr
    · exact fun h => hnil (List.append_eq_nil_iff.1 h).1
    · intro t ht
      cases r with
      | nil => exact hnil rfl
      | cons d r => exact hbreak r (by rw [(List.cons.inj ht).1])
  · next htag hreference hreturn hend hnil hbreak =>
    show GoesOn w _ _ (contentAt c (r ++ w))
    rw [contentAt.eq_7 c (r ++ w) htag hreference hreturn]
    · split
      · exact .same trivial hr
      · exact .broken (Nat.le_refl _)
    · exact fun t hc => sectionEnd_more hw (fun u => hend u hc) t
    · exact fun hc _ => hreturn hc
    · exact fun _ hc _ => hreturn hc

end Tokens

/-! ## All tokens of a text -/

theorem tokens_cons (c : Char) (r : List Char) :
    tokens (c :: r) = ⟨c :: r, (contentAt c r).1⟩ ::
      tokens (r.drop (r.length - (contentAt c r).2.length)) := by
  rw [tokens, walk_cons]
  rfl

theorem tokens_within (s : List Char) :
    ∀ t ∈ tokens s, t.on.length ≤ s.length ∧ t.content.Within s.length := by
  refine walk_forall fun c r hcr => ?_
  have hlength := hcr.length_le
  have hcontent := contentAt_goesOn blanks_nil c r
  generalize contentAt c r = x, contentAt c (r ++ []) = y at hcontent
  cases hcontent with
  | same hc _ => exact ⟨hlength, hc.mono hlength⟩
  | broken hon => exact ⟨hlength, Nat.le_trans hon hlength⟩
  | finalBreak => exact ⟨hlength, trivial⟩

end RackElevation.Xml
