import RackElevation.Proofs.Outcome
import RackElevation.RackText.Cursor

/-
  Reading lines without a cursor

  What a reader of rack-text does to its cursor is the same at each step: it
  takes the next line, if there is one. So a document is read like a list of
  lines, each line being judged on its own, and the cursor can be forgotten.

  What is proved:
    1. `readLines_eq_byLine`, `readBody_eq_byLine`, `readList_eq_byLine` — a
       document is three lines that are judged, and a list.
    2. `expect_eq`, `judged_run` — one step, with what becomes of the cursor.
    3. `document_run` — the outcome of reading a document from a cursor depends
       on the lines that are left, and on the number of the last line.
    4. `parse_eq` — the outcome for a text is that of reading its kept lines.
-/

namespace RackElevation.RackText

open Outcome

/-! ## Judging lines -/

/-- What follows a keyword on a line. -/
def keyword (word : String) (l : Line) : Except Error Line :=
  if word.toList.isPrefixOf l.text then
    .ok ⟨l.number, Text.trim (l.text.drop word.toList.length)⟩
  else .error (.format (.expected (String.ofList word.toList) (String.ofList l.text)) l.number)

/-- The height of a rack that a line gives. -/
def rackHeight (l : Line) : Except Error Int :=
  if !isInteger l.text then .error (.format (.invalidHeight (String.ofList l.text)) l.number)
  else do
    let height ← (Numeral.read l.text).mapError Error.numeral
    if height < 1 then .error (.format (.rackTooLow height) l.number) else .ok height

/-- The device that a line of the list describes. -/
def deviceOf (l : Line) : Except Error Device := readItem (Text.trim (l.text.drop 1)) l.number

/-- Whether a line belongs to the list of devices. -/
def isItem (l : Line) : Bool := l.text.head? == some '-'

/-- The next line and what is left after it; `last` is the number of the last line. -/
def takeLine (last : Nat) : List Line → Except Error (Line × List Line)
  | [] => .error (.format .endOfInput last)
  | l :: rest => .ok (l, rest)

/-- Reads what follows the height of a rack. -/
def readList (last : Nat) (caption : Line) (height : Int) (ls : List Line) : Except Error RackSet := do
  let p ← takeLine last ls
  let _ ← keyword "items:" p.1
  let devices ← (p.2.takeWhile isItem).mapM deviceOf
  return { racks := [{ name := String.ofList caption.text, height := height, devices := devices }] }

/-- Reads what follows the caption of a rack. -/
def readBody (last : Nat) (caption : Line) (ls : List Line) : Except Error RackSet := do
  let p ← takeLine last ls
  let line ← keyword "height:" p.1
  let height ← rackHeight line
  readList last caption height p.2

/-- Reads lines as a document. -/
def readLines (last : Nat) (ls : List Line) : Except Error RackSet := do
  let p ← takeLine last ls
  let caption ← keyword "caption:" p.1
  readBody last caption p.2

/-- Takes a line and judges it; what follows is read with what comes of that. -/
def byLine {α β : Type} (judge : Line → Except Error α)
    (read : α → Nat → List Line → Except Error β) (last : Nat) (ls : List Line) : Except Error β := do
  let p ← takeLine last ls
  let a ← judge p.1
  read a last p.2

theorem readList_eq_byLine (caption : Line) (height : Int) :
    (fun last => readList last caption height) = byLine (keyword "items:") fun _ _ ls =>
      (ls.takeWhile isItem).mapM deviceOf >>= fun devices => pure
        { racks := [{ name := String.ofList caption.text, height := height, devices := devices }] } := rfl

theorem readBody_eq_byLine (caption : Line) :
    (fun last => readBody last caption) = byLine (fun l => keyword "height:" l >>= rackHeight)
      fun height last => readList last caption height := by
  funext last ls
  simp only [byLine, readBody, bind_assoc]

theorem readLines_eq_byLine :
    readLines = byLine (keyword "caption:") fun caption last => readBody last caption := rfl

/-! ## Steps of a reader -/

/-- The cursor after the next line. -/
def Cursor.advance (c : Cursor) : Cursor := { c with index := c.index + 1 }

theorem Cursor.advance_rest {c : Cursor} {l : Line} {ls : List Line} (h : c.rest = l :: ls) :
    c.advance.rest = ls := by
  have hdrop : c.advance.rest = c.rest.drop 1 := by
    rw [rest, rest, List.drop_drop]
    rfl
  rw [hdrop, h]
  rfl

theorem bind_run {α β : Type} (m : Reading α) (f : α → Reading β) (c : Cursor) :
    (m >>= f).run c = match m.run c with
      | (.ok a, c') => (f a).run c'
      | (.error e, c') => (.error e, c') := by
  have hstep : (m >>= f).run c = match m.run c with
      | (x, c') => (ExceptT.bindCont f x).run c' := rfl
  rw [hstep]
  rcases m.run c with ⟨_ | _, _⟩ <;> rfl

/-- A step that takes a line and judges it. -/
def judged {α : Type} (judge : Line → Except Error α) : Reading α :=
  next >>= fun l => liftM (judge l)

theorem expect_eq (word : String) : expect word.toList = judged (keyword word) := by
  refine congrArg (next >>= ·) (funext fun l => ?_)
  show _ = (liftM (if word.toList.isPrefixOf l.text then _ else _ : Except Error Line) : Reading Line)
  split <;> rfl

theorem item_eq : item = judged deviceOf := rfl

/-- A line that is judged is taken whether or not it passes. -/
theorem judged_run {α : Type} (judge : Line → Except Error α) (c : Cursor) :
    (judged judge).run c = match c.rest with
      | [] => (.error (.format .endOfInput c.lastNumber), c)
      | l :: _ => (judge l, c.advance) := by
  rw [judged, bind_run, next_run]
  cases c.rest <;> rfl

/-- What is read after a judged line does not need the cursor either. -/
theorem judged_bind_run {α β : Type} {judge : Line → Except Error α} {f : α → Reading β}
    {g : Nat → α → List Line → Except Error β}
    (h : ∀ a c, ((f a).run c).1 = g c.lastNumber a c.rest) (c : Cursor) :
    ((judged judge >>= f).run c).1 = (takeLine c.lastNumber c.rest >>= fun p =>
      judge p.1 >>= fun a => g c.lastNumber a p.2) := by
  rw [bind_run, judged_run]
  cases hrest : c.rest with
  | nil => rfl
  | cons l ls =>
    show (match (judge l, c.advance) with
      | (.ok a, c') => (f a).run c'
      | (.error e, c') => (.error e, c')).1 = (judge l >>= fun a => g c.lastNumber a ls)
    rcases judge l with e | a
    · rfl
    · show ((f a).run c.advance).1 = g c.lastNumber a ls
      rw [h, Cursor.advance_rest hrest]
      rfl

theorem lift_bind_run {α β : Type} (x : Except Error α) (f : α → Reading β) (c : Cursor) :
    ((liftM x >>= f : Reading β).run c).1 = x >>= fun a => ((f a).run c).1 := by
  rw [bind_run]
  cases x <;> rfl

theorem item_mapM_run {run tail : List Line} {c : Cursor} (h : c.rest = run ++ tail) :
    ((run.mapM fun _ => item).run c).1 = run.mapM deviceOf := by
  induction run generalizing c with
  | nil => rfl
  | cons l run ih =>
    -- each item takes one line, so the cursor stands before the rest of the run
    have hrest := Cursor.advance_rest h
    have hitem : item.run c = (deviceOf l, c.advance) := by
      rw [item_eq, judged_run, h]
      rfl
    rw [List.mapM_cons, List.mapM_cons, bind_run, hitem]
    rcases deviceOf l with e | d
    · rfl
    · show ((run.mapM (fun _ => item) >>= fun ds => pure (d :: ds)).run c.advance).1 =
        (run.mapM deviceOf >>= fun ds => pure (d :: ds))
      rw [bind_run, ← ih hrest]
      rcases (run.mapM fun _ => item).run c.advance with ⟨_ | _, _⟩ <;> rfl

/-! ## A document -/

theorem rackHeight_lift (l : Line) (rack : Int → Rack) :
    (do
      if !isInteger l.text then throw (.format (.invalidHeight (String.ofList l.text)) l.number)
      let height ← (Numeral.read l.text).mapError Error.numeral
      if height < 1 then throw (.format (.rackTooLow height) l.number)
      return rack height : Reading Rack) = liftM (rackHeight l) >>= fun height => pure (rack height) := by
  unfold rackHeight
  by_cases hint : (!isInteger l.text) = true
  · rw [if_pos hint, if_pos hint]
    rfl
  · rw [if_neg hint, if_neg hint]
    rcases (Numeral.read l.text).mapError Error.numeral with e | height
    · rfl
    · show (do
        if height < 1 then throw (.format (.rackTooLow height) l.number)
        return rack height : Reading Rack) =
          liftM (if height < 1 then .error (.format (.rackTooLow height) l.number) else .ok height :
            Except Error Int) >>= _
      split <;> rfl

theorem header_eq :
    header = judged (keyword "caption:") >>= fun caption => judged (keyword "height:") >>= fun line =>
      liftM (rackHeight line) >>= fun height =>
        pure { name := String.ofList caption.text, height := height } := by
  rw [← expect_eq, ← expect_eq]
  refine congrArg (_ >>= ·) (funext fun caption => ?_)
  refine congrArg (_ >>= ·) (funext fun line => ?_)
  exact rackHeight_lift line fun height => { name := String.ofList caption.text, height := height }

/-- The list is read up to the first line that does not belong to it. -/
theorem list_run (c : Cursor) (k : List Device → RackSet) :
    (((get : Reading Cursor) >>= fun c => ((c.rest.takeWhile isItem).mapM fun _ => item) >>= fun devices =>
      pure (k devices)).run c).1 = ((c.rest.takeWhile isItem).mapM deviceOf >>= fun devices =>
        pure (k devices)) := by
  have hrun := item_mapM_run (List.takeWhile_append_dropWhile (p := isItem) (l := c.rest)).symm
  show ((((c.rest.takeWhile isItem).mapM fun _ => item) >>= fun devices => pure (k devices)).run c).1 = _
  rw [bind_run, ← hrun]
  rcases ((c.rest.takeWhile isItem).mapM fun _ => item).run c with ⟨_ | _, _⟩ <;> rfl

theorem items_eq :
    items = judged (keyword "items:") >>= fun _ => (get : Reading Cursor) >>= fun c =>
      (c.rest.takeWhile isItem).mapM fun _ => item := by
  rw [← expect_eq]
  rfl

theorem items_run (c : Cursor) (k : List Device → RackSet) :
    ((items >>= fun devices => pure (k devices)).run c).1 = (takeLine c.lastNumber c.rest >>= fun p =>
      keyword "items:" p.1 >>= fun _ => (p.2.takeWhile isItem).mapM deviceOf >>= fun devices =>
        pure (k devices)) := by
  rw [items_eq]
  simp only [bind_assoc]
  exact judged_bind_run (g := fun _ _ ls => (ls.takeWhile isItem).mapM deviceOf >>= fun devices =>
    pure (k devices)) (fun _ c => list_run c k) c

theorem document_run (c : Cursor) : (document.run c).1 = readLines c.lastNumber c.rest := by
  rw [document, header_eq]
  simp only [bind_assoc, pure_bind]
  refine judged_bind_run (g := readBody) (fun caption c => ?_) c
  refine judged_bind_run (g := fun last line ls =>
    rackHeight line >>= fun height => readList last caption height ls) (fun line c => ?_) c
  rw [lift_bind_run]
  refine congrArg (_ >>= ·) (funext fun height => ?_)
  exact items_run c _

theorem parse_eq (text : String) :
    parse text = readLines (Cursor.ofText text).lastNumber (keptLines text.toList) := by
  exact document_run (Cursor.ofText text)

end RackElevation.RackText
