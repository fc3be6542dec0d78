import RackElevation.Proofs.RackML.Fields
import RackElevation.Proofs.Xml.Lead

/-
  Lines of faults

  A document that is not well formed is refused with the line of its fault. Line
  breaks before it move the fault down by as many lines, and the line that is told
  follows, unless the document starts with a declaration: the blanks before a
  declaration are dropped before lines are counted, so the line that is told
  stays where it was.

  What is proved:
    1. `decode_not_malformed` — only reading the document finds such a fault.
    2. `parse_below` — a fault behind line breaks.
    3. `line_below_iff` — when the line that is told is the line of the text.
    4. `line_not_below` — a document with a declaration, one line down.
-/

namespace RackElevation.RackML

open Text Xml Outcome

/-! ## Where such faults come from -/

theorem integer?_not_malformed {key : String} {element : Name} {attributes : List Attribute}
    {m : Malformed} : integer? key element attributes ≠ .error (.malformed m) := by
  intro h
  unfold integer? at h
  split at h
  · cases h
  split at h
  · cases h
  · rcases bind_eq_error.1 h with h | ⟨n, _, h⟩
    · obtain ⟨_, _, h⟩ := mapError_eq_error.1 h
      cases h
    · split at h
      · cases h
      · cases h

/-- A tree is never refused as a document that is not well formed. -/
theorem decode_not_malformed {node : Node} {m : Malformed} : decode node ≠ .error (.malformed m) := by
  intro h
  cases node with
  | text s => cases h
  | element name attributes content =>
    by_cases hname : name.base = "racks".toList
    · have hfailure := @failure?_decode name attributes content hname
      rw [h, failure?, eq_comm, firstFailure] at hfailure
      obtain ⟨f, _, hf⟩ := List.exists_of_findSome?_eq_some hfailure
      exact integer?_not_malformed (failure?_eq_some.1 hf)
    · rw [decode, if_neg hname] at h
      cases h

theorem parse_malformed {s : List Char} {m : Malformed} :
    parse (String.ofList s) = .error (.malformed m) ↔ Xml.parse (document s) = .error m := by
  rw [parse, String.toList_ofList, bind_eq_error, mapError_eq_error]
  constructor
  · intro h
    rcases h with ⟨m', hm, h⟩ | ⟨root, _, h⟩
    · cases h
      exact hm
    · exact absurd h decode_not_malformed
  · exact fun h => .inl ⟨m, h, rfl⟩

/-! ## Line breaks before a document -/

/-- A text that starts as one with a declaration does. -/
def Declared (s : List Char) : Prop := declarationStart <+: s

instance (s : List Char) : Decidable (Declared s) := inferInstanceAs (Decidable (_ <+: _))

/-- The blanks before a declaration are dropped, and no others. -/
theorem document_eq (s : List Char) :
    document s = if Declared (trimStart s) then trimStart s else s :=
  if_congr List.isPrefixOf_iff_prefix rfl rfl

section Below

variable {r : List Char}

theorem blanks_breaks (k : Nat) : Blanks (List.replicate k '\n') := by
  intro c hc
  rw [List.eq_of_mem_replicate hc]
  decide

theorem spaces_breaks (k : Nat) : ∀ c ∈ List.replicate k '\n', isSpace c = true := by
  intro c hc
  rw [List.eq_of_mem_replicate hc]
  decide

theorem byteCount_breaks (k : Nat) : byteCount (List.replicate k '\n') = k := by
  induction k with
  | zero => rfl
  | succ k ih =>
    rw [List.replicate_succ, ← List.singleton_append, byteCount_append, ih, Nat.add_comm]
    rfl

theorem document_below (k : Nat) (r : List Char) :
    document (List.replicate k '\n' ++ '<' :: r) =
      if Declared ('<' :: r) then '<' :: r else List.replicate k '\n' ++ '<' :: r := by
  rw [document_eq, trimStart_append (blanks_breaks k) (by decide)]

theorem document_start (r : List Char) : document ('<' :: r) = '<' :: r := by
  rw [document_eq, trimStart_of_not_blank r (by decide)]
  exact ite_self _

/-- Without a declaration the place of a fault is the place in the text. -/
theorem xmlParse_below {k : Nat} (hplain : startsWithPair ('<' :: r) = false)
    (hr : ¬Declared ('<' :: r)) (hgrow : GrowsAlike k ('<' :: r)) {m : Malformed}
    (h : Xml.parse ('<' :: r) = .error m) :
    Xml.parse (List.replicate k '\n' ++ '<' :: r) = .error ⟨m.fault, m.position.below k⟩ := by
  have hstart : Plain ('<' :: r) := ⟨hplain, by simp⟩
  have hlead : Plain (List.replicate k '\n' ++ '<' :: r) := by
    cases k with
    | zero => exact hstart
    | succ k => exact plain_lead (blanks_breaks _) (by simp [List.replicate_succ]) hplain
  rw [parse_plain hstart, mapError_eq_error] at h
  obtain ⟨f, hf, rfl⟩ := h
  have hgrow' : GrowsAlike (byteCount (List.replicate k '\n')) ('<' :: r) := by
    rw [byteCount_breaks]
    exact hgrow
  rw [parse_plain hlead, readDocument_lead (spaces_breaks k) hr hgrow', hf, Except.mapError,
    positionBefore_lead k (readDocument_within _ f hf)]

/-- The line that is told for an error. -/
def Error.line? (e : Error) : Option Int := e.diagnostic?.bind Diagnostic.line

/-- A document that is not well formed is refused for the same fault with line breaks before it, and
the line that is told is further down by as many lines exactly if the document does not start with a
declaration; if it does, the line stays the same. Only without a declaration it matters how the text
starts, and how far entities may grow behind the line breaks. -/
theorem line_below_iff {k : Nat} {m : Malformed} (hk : 1 ≤ k)
    (hplain : ¬Declared ('<' :: r) → startsWithPair ('<' :: r) = false)
    (hgrow : ¬Declared ('<' :: r) → GrowsAlike k ('<' :: r))
    (h : parse (String.ofList ('<' :: r)) = .error (.malformed m)) :
    ∃ m', parse (String.ofList (List.replicate k '\n' ++ '<' :: r)) = .error (.malformed m') ∧
      m'.fault = m.fault ∧ m'.position.column = m.position.column ∧
      ((Error.malformed m').line? = some (m.position.line + k : Int) ↔ ¬Declared ('<' :: r)) ∧
      (Declared ('<' :: r) → m' = m) := by
  rw [parse_malformed, document_start] at h
  simp only [parse_malformed, document_below]
  by_cases hr : Declared ('<' :: r)
  · have hline : (Error.malformed m).line? ≠ some (m.position.line + k : Int) := by
      intro hline
      have heq : (m.position.line : Int) = m.position.line + k := Option.some.inj hline
      omega
    refine ⟨m, by rw [if_pos hr, h], rfl, rfl, ?_, fun _ => rfl⟩
    exact ⟨fun hbelow => absurd hbelow hline, fun hno => absurd hr hno⟩
  · refine ⟨⟨m.fault, m.position.below k⟩, ?_, rfl, rfl, ?_, fun hyes => absurd hyes hr⟩
    · rw [if_neg hr, xmlParse_below (hplain hr) hr (hgrow hr) h]
    · exact ⟨fun _ => hr, fun _ => congrArg some (Int.natCast_add _ _)⟩

end Below

/-- A document after its first character, with a rack that is not closed. -/
def unclosed : List Char := "racks>\n<rack>\n</racks>".toList

theorem line_below_iff_unclosed :
    startsWithPair ('<' :: unclosed) = false ∧ GrowsAlike 2 ('<' :: unclosed) ∧
    parse (String.ofList ('<' :: unclosed)) = .error (.malformed ⟨.mismatchedTag, ⟨3, 2⟩⟩) ∧
    ¬Declared ('<' :: unclosed) ∧
    ∃ m, parse (String.ofList ('\n' :: '\n' :: '<' :: unclosed)) = .error (.malformed m) ∧
      m.fault = .mismatchedTag ∧ (Error.malformed m).line? = some 5 := by
  have hplain : startsWithPair ('<' :: unclosed) = false := by decide
  have hprolog : readProlog {} .start (marks ('<' :: unclosed)) = .ok ({}, '<' :: unclosed) := by rfl
  have hgrow : GrowsAlike 2 ('<' :: unclosed) := by
    refine growsAlike_of_entities (fun d on h => ?_) 2
    rw [hprolog] at h
    cases h
    rfl
  have hparse : parse (String.ofList ('<' :: unclosed)) =
      .error (.malformed ⟨.mismatchedTag, ⟨3, 2⟩⟩) := parse_malformed.2 (by rfl)
  have hdeclared : ¬Declared ('<' :: unclosed) := by decide
  obtain ⟨m, hm, hfault, _, hline, _⟩ :=
    line_below_iff (Nat.le_add_left 1 1) (fun _ => hplain) (fun _ => hgrow) hparse
  exact ⟨hplain, hgrow, hparse, hdeclared, m, hm, hfault, hline.2 hdeclared⟩

/-- The same document with a declaration. -/
def unclosedDeclared : List Char :=
  "?xml version=\"1.0\"?>\n<racks>\n<rack>\n</racks>".toList

/-- One line further down, the fault is still told for the fourth line. -/
theorem line_not_below :
    ∃ m, parse (String.ofList ('<' :: unclosedDeclared)) = .error (.malformed m) ∧
      parse (String.ofList ('\n' :: '<' :: unclosedDeclared)) = .error (.malformed m) ∧
      (Error.malformed m).line? = some 4 ∧ (4 : Int) ≠ 4 + 1 := by
  refine ⟨⟨.mismatchedTag, ⟨4, 2⟩⟩, parse_malformed.2 (by rfl), parse_malformed.2 (by rfl), rfl, ?_⟩
  decide

end RackElevation.RackML
