import RackElevation.Proofs.RackText.Blame

/-
  A reader that is called again and again

  A reader keeps its lines and a place among them, and its parts may be called in
  any order, also after a call has failed. What a call takes of the lines that are
  left, and what it answers, is told by those lines and the number of the last
  one: `Takes` says so of any reading, with the number of lines it takes at least,
  and goes through binds. So a call cannot tell a reader that is in the middle of
  its lines from one that has been given just the rest of them.

  A reading that succeeds leaves lines that are told as well (`Leaves`); for a
  document, those after its list. Documents can be read one after another
  therefore.

  What is proved:
    1. `takes_document`, `takes_call` — what a document and a call take.
    2. `leaves_document` — what a document leaves.
    3. `within_performAll` — a run of calls keeps the lines, and a place among them.
    4. `disciplined` — one call.
    5. `performAll_disciplined` — each call of any run, and two documents.
-/

namespace RackElevation.RackText

open Text Outcome Grammar

section Readings

variable {α β : Type}

/-! ## Taking lines -/

/-- The cursor after some of the lines that are left. -/
def Cursor.skip (c : Cursor) (n : Nat) : Cursor := { c with index := c.index + n }

theorem Cursor.skip_rest (c : Cursor) (n : Nat) : (c.skip n).rest = c.rest.drop n := by
  rw [rest, rest, List.drop_drop]
  rfl

theorem Cursor.skip_skip (c : Cursor) (n k : Nat) : (c.skip n).skip k = c.skip (n + k) := by
  rw [skip, skip, skip, Nat.add_assoc]

/-- Of the lines that are left, the reading takes at least `k`, or all; how many, and what it
answers, is told by these lines and the number of the last line. -/
def Takes (k : Nat) (m : Reading α) : Prop :=
  ∀ last ls, ∃ answer n, min k ls.length ≤ n ∧ n ≤ ls.length ∧
    ∀ c : Cursor, c.lastNumber = last → c.rest = ls → m.run c = (answer, c.skip n)

theorem takes_pure (a : α) : Takes 0 (pure a : Reading α) :=
  fun _ ls => ⟨.ok a, 0, Nat.min_le_left 0 _, Nat.zero_le ls.length, fun _ _ _ => rfl⟩

theorem takes_lift (x : Except Error α) : Takes 0 (liftM x : Reading α) :=
  fun _ ls => ⟨x, 0, Nat.min_le_left 0 _, Nat.zero_le ls.length, fun _ _ _ => rfl⟩

theorem Takes.bind {k : Nat} {m : Reading α} {f : α → Reading β} (hm : Takes k m)
    (hf : ∀ a, Takes 0 (f a)) : Takes k (m >>= f) := by
  intro last ls
  obtain ⟨answer, n, hleast, hmost, hrun⟩ := hm last ls
  cases answer with
  | error e =>
    refine ⟨.error e, n, hleast, hmost, fun c hlast hls => ?_⟩
    rw [bind_run, hrun c hlast hls]
  | ok a =>
    -- the second reading starts `n` lines later, with the same last line
    obtain ⟨answer, n', _, hmost', hrun'⟩ := hf a last (ls.drop n)
    rw [List.length_drop] at hmost'
    refine ⟨answer, n + n', by omega, by omega, fun c hlast hls => ?_⟩
    rw [bind_run, hrun c hlast hls, ← Cursor.skip_skip]
    exact hrun' (c.skip n) hlast (by rw [Cursor.skip_rest, hls])

theorem takes_get {f : Cursor → Reading α} {g : List Line → Reading α} (hf : ∀ c, f c = g c.rest)
    (hg : ∀ ls, Takes 0 (g ls)) : Takes 0 (get >>= f) := by
  intro last ls
  obtain ⟨answer, n, hleast, hmost, hrun⟩ := hg ls last ls
  refine ⟨answer, n, hleast, hmost, fun c hlast hls => ?_⟩
  show (f c).run c = _
  rw [hf, hls, hrun c hlast hls]

theorem takes_judged (judge : Line → Except Error α) : Takes 1 (judged judge) := by
  intro last ls
  cases ls with
  | nil =>
    refine ⟨.error (.format .endOfInput last), 0, Nat.le_refl 0, Nat.le_refl 0, fun c hlast hls => ?_⟩
    rw [judged_run, hls, hlast]
    rfl
  | cons l ls =>
    refine ⟨judge l, 1, Nat.min_le_left 1 _, Nat.succ_pos ls.length, fun c hlast hls => ?_⟩
    rw [judged_run, hls]
    rfl

theorem Takes.weaken {k : Nat} {m : Reading α} (h : Takes k m) : Takes 0 m := by
  intro last ls
  obtain ⟨answer, n, _, hmost, hrun⟩ := h last ls
  exact ⟨answer, n, by omega, hmost, hrun⟩

theorem takes_items_of (run : List Line) : Takes 0 (run.mapM fun _ => item) := by
  induction run with
  | nil => exact takes_pure []
  | cons l run ih =>
    rw [List.mapM_cons, item_eq]
    exact (takes_judged deviceOf).weaken.bind fun _ => ih.bind fun _ => takes_pure _

theorem takes_document : Takes 1 document := by
  have hitems : Takes 0 items := by
    rw [items_eq]
    exact (takes_judged _).weaken.bind fun _ => takes_get (fun _ => rfl)
      fun ls => takes_items_of (ls.takeWhile isItem)
  have hheader : Takes 1 header := by
    rw [header_eq]
    exact (takes_judged _).bind fun _ => (takes_judged _).weaken.bind fun _ =>
      (takes_lift _).bind fun _ => takes_pure _
  exact hheader.bind fun _ => hitems.bind fun _ => takes_pure _

/-! ## Leaving lines -/

/-- Where the reading succeeds, it leaves what `left` tells of the lines that are left before. -/
def Leaves (left : List Line → List Line) (m : Reading α) : Prop :=
  ∀ c a c', m.run c = (.ok a, c') → c'.rest = left c.rest

theorem leaves_pure (a : α) : Leaves id (pure a : Reading α) := by
  intro c _ c' h
  cases h
  rfl

theorem leaves_lift (x : Except Error α) : Leaves id (liftM x : Reading α) := by
  intro c a c' h
  have hrun : (liftM x : Reading α).run c = (x, c) := rfl
  rw [hrun] at h
  cases h
  rfl

theorem Leaves.bind {left left' : List Line → List Line} {m : Reading α} {f : α → Reading β}
    (hm : Leaves left m) (hf : ∀ a, Leaves left' (f a)) : Leaves (left' ∘ left) (m >>= f) := by
  intro c b c'' h
  rw [bind_run] at h
  rcases hrun : m.run c with ⟨_ | a, c'⟩
  · rw [hrun] at h
    cases h
  · rw [hrun] at h
    rw [hf a c' b c'' h, hm c a c' hrun]
    rfl

theorem leaves_get {left : List Line → List Line} {f : Cursor → Reading α}
    (hf : ∀ c a c', (f c).run c = (.ok a, c') → c'.rest = left c.rest) : Leaves left (get >>= f) :=
  fun c a c' h => hf c a c' h

theorem leaves_judged (judge : Line → Except Error α) : Leaves (List.drop 1) (judged judge) := by
  intro c a c' h
  rw [judged_run] at h
  cases hrest : c.rest with
  | nil =>
    rw [hrest] at h
    cases h
  | cons l ls =>
    rw [hrest] at h
    obtain ⟨_, rfl⟩ := Prod.mk.inj h
    exact Cursor.advance_rest hrest

theorem leaves_items_of (run : List Line) :
    Leaves (List.drop run.length) (run.mapM fun _ => item) := by
  induction run with
  | nil => exact leaves_pure []
  | cons l run ih =>
    intro c a c' h
    rw [List.mapM_cons, item_eq] at h
    have hleft := (leaves_judged deviceOf).bind (fun _ => ih.bind fun _ => leaves_pure _) c a c' h
    rw [hleft, Function.comp, Function.comp, id, List.drop_drop, Nat.add_comm]
    rfl

end Readings

/-- The lines after the list of a document. -/
def afterList (ls : List Line) : List Line := (ls.drop 3).dropWhile isItem

theorem leaves_document : Leaves afterList document := by
  have hlist : Leaves (List.dropWhile isItem) ((get : Reading Cursor) >>= fun c =>
      (c.rest.takeWhile isItem).mapM fun _ => item) := by
    refine leaves_get fun c devices c' h => ?_
    have hdrop : (c.rest.takeWhile isItem ++ c.rest.dropWhile isItem).drop
        (c.rest.takeWhile isItem).length = c.rest.dropWhile isItem := List.drop_left
    rw [List.takeWhile_append_dropWhile] at hdrop
    rw [leaves_items_of _ c devices c' h, hdrop]
  have hitems : Leaves (List.dropWhile isItem ∘ List.drop 1) items := by
    rw [items_eq]
    exact (leaves_judged _).bind fun _ => hlist
  have hheader : Leaves (List.drop 1 ∘ List.drop 1) header := by
    rw [header_eq]
    exact (leaves_judged _).bind fun _ => (leaves_judged _).bind fun _ =>
      (leaves_lift _).bind fun _ => leaves_pure _
  intro c s c' h
  rw [hheader.bind (fun _ => hitems.bind fun _ => leaves_pure _) c s c' h]
  simp only [Function.comp, id, List.drop_drop, afterList]

/-! ## Calls -/

/-- What can be asked of a reader. -/
inductive Call
  | parse
  | hasMore
  | peek
  | next
  | expect (keyword : List Char)
  | item

/-- What a reader answers. -/
inductive Reply
  | rackSet (s : RackSet)
  | flag (b : Bool)
  | text (t : List Char)
  | line (l : Line)
  | device (d : Device)
  deriving DecidableEq

/-- What a call reads. -/
def Call.reading : Call → Reading Reply
  | .parse => do return .rackSet (← document)
  | .hasMore => do return .flag (← get).hasMore
  | .peek => do return .text (← get).peek
  | .next => do return .line (← RackText.next)
  | .expect keyword => do return .line (← RackText.expect keyword)
  | .item => do return .device (← RackText.item)

/-- The answer to a call, and the cursor after it. -/
def Call.perform (call : Call) (c : Cursor) : Except Error Reply × Cursor := call.reading.run c

/-- Calls in a row; one that fails does not end the run. -/
def performAll : List Call → Cursor → List (Except Error Reply) × Cursor
  | [], c => ([], c)
  | call :: calls, c =>
    let (answer, c) := call.perform c
    let (answers, c) := performAll calls c
    (answer :: answers, c)

/-- Whether the call only looks at the lines. -/
def Call.looks : Call → Bool
  | .hasMore | .peek => true
  | _ => false

/-- Whether the call is one for a line. -/
def Call.takesLine : Call → Bool
  | .next | .expect _ | .item => true
  | _ => false

/-- A reader of nothing but the lines that are left. -/
def Cursor.fresh (c : Cursor) : Cursor := ⟨c.rest, 0⟩

theorem Cursor.fresh_rest (c : Cursor) : c.fresh.rest = c.rest := List.drop_zero

theorem Cursor.rest_eq_nil_iff {c : Cursor} : c.rest = [] ↔ c.lines.length ≤ c.index :=
  List.drop_eq_nil_iff

theorem Cursor.fresh_lastNumber {c : Cursor} (h : c.rest ≠ []) : c.fresh.lastNumber = c.lastNumber := by
  have hindex : ¬ c.lines.length ≤ c.index := fun hle => h (rest_eq_nil_iff.2 hle)
  rw [lastNumber, fresh, rest, List.getLast?_drop, if_neg hindex, lastNumber]

theorem judged_map {α β : Type} (judge : Line → Except Error α) (f : α → β) :
    (judged judge >>= fun a => pure (f a)) = judged fun l => (judge l).map f := by
  rw [judged, judged, bind_assoc]
  refine congrArg (next >>= ·) (funext fun l => ?_)
  cases judge l <;> rfl

/-- A call for a line is answered with what comes of the line. -/
theorem reading_eq_judged {call : Call} (h : call.takesLine = true) :
    ∃ judge, call.reading = judged judge := by
  cases call with
  | parse => cases h
  | hasMore => cases h
  | peek => cases h
  | next => exact ⟨fun l => .ok (.line l), rfl⟩
  | expect keyword =>
    have hword := expect_eq (String.ofList keyword)
    rw [String.toList_ofList] at hword
    refine ⟨fun l => (RackText.keyword (String.ofList keyword) l).map .line, ?_⟩
    rw [Call.reading, hword, judged_map]
  | item => exact ⟨fun l => (deviceOf l).map .device, judged_map deviceOf Reply.device⟩

/-- A call that looks is answered with what the lines that are left tell. -/
theorem reading_eq_look {call : Call} (h : call.looks = true) :
    ∃ answer : List Line → Reply, call.reading = get >>= fun c => pure (answer c.rest) := by
  cases call with
  | parse => cases h
  | hasMore =>
    refine ⟨fun ls => .flag !ls.isEmpty, ?_⟩
    simp only [Call.reading, Cursor.hasMore_eq]
  | peek => exact ⟨fun ls => .text ((ls.head?.map Line.text).getD []), rfl⟩
  | next => cases h
  | expect keyword => cases h
  | item => cases h

theorem Call.kinds (call : Call) : call = .parse ∨ call.looks = true ∨ call.takesLine = true := by
  cases call <;> simp [looks, takesLine]

theorem takes_call (call : Call) : Takes 0 call.reading := by
  rcases call.kinds with rfl | hlooks | hline
  · exact takes_document.weaken.bind fun _ => takes_pure _
  · obtain ⟨answer, hanswer⟩ := reading_eq_look hlooks
    rw [hanswer]
    exact takes_get (fun _ => rfl) fun ls => takes_pure (answer ls)
  · obtain ⟨judge, hjudge⟩ := reading_eq_judged hline
    rw [hjudge]
    exact (takes_judged judge).weaken

/-! ## Runs -/

/-- The reader has the lines of a text, and its place is among them or at their end. -/
structure Within (text : List Char) (c : Cursor) : Prop where
  lines : c.lines = keptLines text
  index_le : c.index ≤ c.lines.length

theorem within_ofText (text : String) : Within text.toList (Cursor.ofText text) :=
  ⟨rfl, Nat.zero_le _⟩

theorem Within.perform {text : List Char} {c : Cursor} (h : Within text c) (call : Call) :
    Within text (call.perform c).2 := by
  obtain ⟨answer, n, _, hmost, hrun⟩ := takes_call call c.lastNumber c.rest
  have hlength : c.rest.length = c.lines.length - c.index := List.length_drop
  have hindex := h.index_le
  rw [Call.perform, hrun c rfl rfl]
  refine ⟨h.lines, ?_⟩
  show c.index + n ≤ c.lines.length
  omega

theorem within_performAll {text : List Char} {c : Cursor} (h : Within text c) (calls : List Call) :
    Within text (performAll calls c).2 := by
  induction calls generalizing c with
  | nil => exact h
  | cons call calls ih => exact ih (h.perform call)

theorem Within.isLast {text : String} {c : Cursor} (h : Within text.toList c) :
    IsLast text.toList c.lastNumber := by
  rw [Cursor.lastNumber, h.lines]
  exact isLast_lastNumber text

/-- What a call does to a reader of a text, and what it answers. -/
structure Disciplined (text : List Char) (c : Cursor) (call : Call) : Prop where
  /-- To look does not move the reader. -/
  looks : call.looks = true → (call.perform c).2 = c
  /-- A call for a line moves it by one line, whether or not the call fails. -/
  takesLine : call.takesLine = true → c.index < c.lines.length →
    (call.perform c).2 = { c with index := c.index + 1 }
  /-- At the end a call for a line fails, and the reader stays where it is. -/
  ends : call.takesLine = true → c.index = c.lines.length →
    ∃ n, IsLast text n ∧ call.perform c = (.error (.format .endOfInput n), c)
  /-- The answer is that of a reader of just the lines that are left. If none is left, both may be
  that the input has ended, with two numbers. -/
  answers : (call.perform c).1 = (call.perform c.fresh).1 ∨ c.rest = [] ∧ ∃ m n,
    (call.perform c).1 = .error (.format .endOfInput m) ∧
      (call.perform c.fresh).1 = .error (.format .endOfInput n)
  /-- A document takes a line if there is one. -/
  parses : call = .parse → c.index < c.lines.length → c.index < (call.perform c).2.index
  /-- After a document the next line is no item. -/
  stops : call = .parse → ∀ s c', call.perform c = (.ok s, c') →
    ∀ l ∈ c'.rest.head?, l.text.head? ≠ some '-'

theorem perform_of_takesLine {call : Call} (h : call.takesLine = true) (c : Cursor) :
    ∃ judge : Line → Except Error Reply, call.perform c = match c.rest with
      | [] => (.error (.format .endOfInput c.lastNumber), c)
      | l :: _ => (judge l, c.advance) := by
  obtain ⟨judge, hjudge⟩ := reading_eq_judged h
  refine ⟨judge, ?_⟩
  rw [Call.perform, hjudge, judged_run]
  cases c.rest <;> rfl

theorem perform_of_looks {call : Call} (h : call.looks = true) :
    ∃ answer : List Line → Reply, ∀ c, call.perform c = (.ok (answer c.rest), c) := by
  obtain ⟨answer, hanswer⟩ := reading_eq_look h
  refine ⟨answer, fun c => ?_⟩
  rw [Call.perform, hanswer]
  rfl

theorem perform_parse (c : Cursor) : Call.perform .parse c =
    ((document.run c).1.map Reply.rackSet, (document.run c).2) := by
  rw [Call.perform, Call.reading, bind_run]
  rcases document.run c with ⟨_ | _, _⟩ <;> rfl

theorem perform_fresh (call : Call) (c : Cursor) (h : c.rest ≠ []) :
    (call.perform c).1 = (call.perform c.fresh).1 := by
  obtain ⟨answer, n, _, _, hrun⟩ := takes_call call c.lastNumber c.rest
  rw [Call.perform, Call.perform, hrun c rfl rfl,
    hrun c.fresh (Cursor.fresh_lastNumber h) c.fresh_rest]

/-- A reader at the end can be looked at; to any other call it has no answer. -/
theorem perform_of_rest_nil (call : Call) :
    (∃ answer, ∀ c : Cursor, c.rest = [] → (call.perform c).1 = .ok answer) ∨
      ∀ c : Cursor, c.rest = [] → (call.perform c).1 = .error (.format .endOfInput c.lastNumber) := by
  rcases call.kinds with rfl | hlooks | hline
  · refine .inr fun c hrest => ?_
    rw [perform_parse, document_run, hrest]
    rfl
  · obtain ⟨answer, hanswer⟩ := perform_of_looks hlooks
    exact .inl ⟨answer [], fun c hrest => by rw [hanswer, hrest]⟩
  · refine .inr fun c hrest => ?_
    obtain ⟨judge, hjudge⟩ := perform_of_takesLine hline c
    rw [hjudge, hrest]

theorem disciplined {text : String} {c : Cursor} (h : Within text.toList c) (call : Call) :
    Disciplined text.toList c call where
  looks hlooks := by
    obtain ⟨answer, hanswer⟩ := perform_of_looks hlooks
    rw [hanswer]
  takesLine hline hindex := by
    obtain ⟨judge, hjudge⟩ := perform_of_takesLine hline c
    cases hrest : c.rest with
    | nil => exact absurd (Cursor.rest_eq_nil_iff.1 hrest) (Nat.not_le.2 hindex)
    | cons l ls => rw [hjudge, hrest]; rfl
  ends hline hindex := by
    obtain ⟨judge, hjudge⟩ := perform_of_takesLine hline c
    have hrest : c.rest = [] := Cursor.rest_eq_nil_iff.2 (Nat.le_of_eq hindex.symm)
    exact ⟨c.lastNumber, h.isLast, by rw [hjudge, hrest]⟩
  answers := by
    by_cases hrest : c.rest = []
    · have hfresh : c.fresh.rest = [] := c.fresh_rest.trans hrest
      rcases perform_of_rest_nil call with ⟨answer, hanswer⟩ | hends
      · exact .inl ((hanswer c hrest).trans (hanswer c.fresh hfresh).symm)
      · exact .inr ⟨hrest, _, _, hends c hrest, hends c.fresh hfresh⟩
    · exact .inl (perform_fresh call c hrest)
  parses hparse hindex := by
    subst hparse
    obtain ⟨answer, n, hleast, _, hrun⟩ := takes_document c.lastNumber c.rest
    have hlength : c.rest.length = c.lines.length - c.index := List.length_drop
    rw [perform_parse, hrun c rfl rfl]
    show c.index < c.index + n
    omega
  stops hparse s c' hrun l hl := by
    subst hparse
    rw [perform_parse] at hrun
    obtain ⟨hanswer, hcursor⟩ := Prod.mk.inj hrun
    obtain ⟨s, hs, _⟩ := map_eq_ok.1 hanswer
    have hleft := leaves_document c s c' (Prod.ext hs hcursor)
    rw [hleft] at hl
    have hitem : isItem l = false := head_dropWhile _ l hl
    simpa [isItem] using hitem

/-! ## Documents in a row -/

theorem map_text_afterList (ls : List Line) : (afterList ls).map Line.text =
    ((ls.map Line.text).drop 3).dropWhile (·.head? == some '-') := by
  have htexts : ((ls.drop 3).map Line.text).dropWhile (·.head? == some '-') =
      ((ls.drop 3).dropWhile isItem).map Line.text := List.dropWhile_map ..
  rw [afterList, ← htexts, List.map_drop]

/-- A document starts with no item. -/
theorem head?_of_reads {ls : List (List Char)} {r : Rack} (h : Reads ls r) :
    ∀ l ∈ ls.head?, l.head? ≠ some '-' := by
  obtain ⟨caption, _, _, _, _, rfl, ⟨name, rfl⟩, _⟩ := h
  intro l hl
  cases hl
  have hhead : "caption:".toList.head? = some 'c' := by decide +kernel
  rw [List.head?_append, hhead]
  simp

/-- Where the list of a document goes on to the end, the document is read in front of any other. -/
theorem reads_append {ls ls' : List (List Char)} {r r' : Rack} (h : Reads ls r)
    (hend : (ls.drop 3).dropWhile (·.head? == some '-') = []) (h' : Reads ls' r') :
    Reads (ls ++ ls') r ∧ ((ls ++ ls').drop 3).dropWhile (·.head? == some '-') = ls' := by
  have hlist := List.takeWhile_append_dropWhile (p := (·.head? == some '-')) (l := ls.drop 3)
  rw [hend, List.append_nil] at hlist
  have hlength : 3 ≤ ls.length := by
    obtain ⟨_, _, _, _, _, rfl, _⟩ := h
    simp
  constructor
  · have hwhole := reads_upToList h (head?_of_reads h')
    rwa [upToList, hlist, List.take_append_drop] at hwhole
  · rw [List.drop_append_of_le_length hlength, ← hlist]
    exact dropWhile_run (fun _ => mem_takeWhile) fun l hl => by simpa using head?_of_reads h' l hl

theorem document_twice {a b : String} {s t : RackSet} {c : Cursor}
    (ha : document.run (Cursor.ofText a) = (.ok s, c)) (hend : c.hasMore = false)
    (hb : parse b = .ok t) : ∃ c', document.run (Cursor.ofText (a ++ "\n" ++ b)) = (.ok s, c') ∧
      (document.run c').1 = .ok t := by
  obtain ⟨r, rfl, hreads⟩ := parse_eq_ok_iff.1 (congrArg Prod.fst ha)
  obtain ⟨r', rfl, hreads'⟩ := parse_eq_ok_iff.1 hb
  have hleft : ((kept a.toList).drop 3).dropWhile (·.head? == some '-') = [] := by
    have hrest : c.rest = [] := by simpa [Cursor.hasMore_eq] using hend
    rw [leaves_document _ _ _ ha] at hrest
    rw [← keptLines_text, ← map_text_afterList]
    exact List.map_eq_nil_iff.2 hrest
  obtain ⟨hfirst, hsecond⟩ := reads_append hreads hleft hreads'
  have hkept : kept (a ++ "\n" ++ b).toList = kept a.toList ++ kept b.toList := by
    have hlist : (a ++ "\n" ++ b).toList = a.toList ++ '\n' :: b.toList := by simp
    rw [hlist, kept_append_break _ _ rfl]
  have hparse : parse (a ++ "\n" ++ b) = .ok { racks := [r] } :=
    parse_eq_ok_iff.2 ⟨r, rfl, by rwa [hkept]⟩
  have hrun : document.run (Cursor.ofText (a ++ "\n" ++ b)) = (.ok { racks := [r] }, _) :=
    Prod.ext hparse rfl
  refine ⟨_, hrun, ?_⟩
  -- the second document is read from the lines that the first one leaves
  rw [document_run, readLines_eq_ok_iff_reads]
  refine ⟨r', rfl, ?_⟩
  rw [leaves_document _ _ _ hrun, map_text_afterList]
  show Reads ((((keptLines _).map Line.text).drop 3).dropWhile _) r'
  rw [keptLines_text, hkept, hsecond]
  exact hreads'

theorem performAll_disciplined :
    (∀ (text : String) (calls : List Call),
      Within text.toList (performAll calls (Cursor.ofText text)).2 ∧
        ∀ call, Disciplined text.toList (performAll calls (Cursor.ofText text)).2 call) ∧
    ∀ (a b : String) (s t : RackSet) (c : Cursor),
      Call.parse.perform (Cursor.ofText a) = (.ok (.rackSet s), c) → c.index = c.lines.length →
      parse b = .ok t →
      (performAll [.parse, .parse] (Cursor.ofText (a ++ "\n" ++ b))).1 =
        [.ok (.rackSet s), .ok (.rackSet t)] := by
  constructor
  · intro text calls
    have hwithin := within_performAll (within_ofText text) calls
    exact ⟨hwithin, disciplined hwithin⟩
  · intro a b s t c ha hend hb
    rw [perform_parse] at ha
    obtain ⟨hanswer, hcursor⟩ := Prod.mk.inj ha
    obtain ⟨s', hs, hreply⟩ := map_eq_ok.1 hanswer
    cases hreply
    have hmore : c.hasMore = false := by simp [Cursor.hasMore, hend]
    obtain ⟨c', hfirst, hsecond⟩ := document_twice (Prod.ext hs hcursor) hmore hb
    simp only [performAll, perform_parse, hfirst, hsecond, Except.map]

/-- A text that fails at its height, and is read on from there. -/
def resumed : String := "caption: A\nheight: x\nitems:\n- ups: b\n\n(end)"

/-- Calls that read it to its end, and two more. -/
def resumedCalls : List Call :=
  [.parse, .expect "items:".toList, .item, .peek, .item, .hasMore, .next]

/-- A document whose list goes on to its end. -/
def listed : String := "caption: A\nheight: 4\nitems:\n- ups: b"

/-- A document without items. -/
def unlisted : String := "caption: B\nheight: 2\nitems:"

theorem performAll_disciplined_resumed :
    ((performAll resumedCalls (Cursor.ofText resumed)).1 =
        [.error (.format (.invalidHeight "x") 2), .ok (.line ⟨3, []⟩),
          .ok (.device { kind := "ups", category := none, height := 1, name := "b", href := none }),
          .ok (.text "(end)".toList), .error (.format .noColon 6), .ok (.flag false),
          .error (.format .endOfInput 6)] ∧
      Within resumed.toList (performAll resumedCalls (Cursor.ofText resumed)).2 ∧
      ∃ n, IsLast resumed.toList n ∧ Call.item.perform (performAll resumedCalls (Cursor.ofText resumed)).2 =
        (.error (.format .endOfInput n), (performAll resumedCalls (Cursor.ofText resumed)).2)) ∧
    (Call.next.perform (performAll [.parse] (Cursor.ofText resumed)).2).2.index = 3 ∧
    (∃ s c, Call.parse.perform (Cursor.ofText footed) = (.ok s, c) ∧
      ∀ l ∈ c.rest.head?, l.text.head? ≠ some '-') ∧
    (performAll [.parse, .parse] (Cursor.ofText (listed ++ "\n" ++ unlisted))).1 =
      [.ok (.rackSet { racks := [{ name := "A", height := 4, devices :=
          [{ kind := "ups", category := none, height := 1, name := "b", href := none }] }] }),
        .ok (.rackSet { racks := [{ name := "B", height := 2, devices := [] }] })] := by
  obtain ⟨hcalls, hdocuments⟩ := performAll_disciplined
  obtain ⟨hwithin, hend⟩ := hcalls resumed resumedCalls
  obtain ⟨_, hfailed⟩ := hcalls resumed [.parse]
  obtain ⟨_, hfooted⟩ := hcalls footed []
  refine ⟨⟨by decide +kernel, hwithin, (hend .item).ends rfl (by decide +kernel)⟩, ?_, ?_, ?_⟩
  · rw [(hfailed .next).takesLine rfl (by decide +kernel)]
    decide +kernel
  · obtain ⟨s, hs⟩ : ∃ s, (Call.parse.perform (Cursor.ofText footed)).1 = .ok s :=
      succeeds_of_isOk (by decide +kernel)
    have hperform : Call.parse.perform (Cursor.ofText footed) = (.ok s, _) := Prod.ext hs rfl
    exact ⟨s, _, hperform, (hfooted .parse).stops rfl s _ hperform⟩
  · exact hdocuments listed unlisted _ _ ⟨keptLines listed.toList, 4⟩ (by decide +kernel) (by decide +kernel)
      (by decide +kernel)

end RackElevation.RackText
