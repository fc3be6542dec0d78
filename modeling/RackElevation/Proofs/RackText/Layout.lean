import Mathlib.Logic.Relation
import RackElevation.Proofs.RackText.Blame

/-
  Layout does not matter

  Of the lines of a text, reading sees what is on them; their numbers only go into
  faults. So to renumber the lines is to renumber the fault, and to read a text is
  to read its kept lines numbered by their places and then to put the number of a
  line for its place. Two texts with the same kept lines have the same outcome
  therefore, a fault being blamed on the same kept line under its number in either
  text.

  Layout is whatever leaves the kept lines: the form of the line breaks, and
  blanks put in at the start or the end of a line.

  What is proved:
    1. `readLines_renumber` — reading lines with other numbers.
    2. `parse_eq_renumber` — a text is read through the places of its kept lines.
    3. `sameOutcome_of_kept_eq` — the outcomes of texts with the same kept lines.
    4. `parse_layout` — the same for texts that differ in their layout.
-/

namespace RackElevation.RackText

open Text Outcome Grammar

/-! ## Other numbers -/

section Renumbering

variable {α β : Type} (f : Nat → Nat)

/-- A line under another number. -/
def Line.renumber (l : Line) : Line := ⟨f l.number, l.text⟩

/-- An error with the number of the line changed, if it has one. -/
def Error.renumber : Error → Error
  | .format fault line => .format fault (f line)
  | .numeral fault => .numeral fault

theorem keyword_renumber (word : String) (l : Line) :
    keyword word (l.renumber f) =
      ((keyword word l).map (Line.renumber f)).mapError (Error.renumber f) := by
  unfold keyword
  rw [Line.renumber]
  split <;> rfl

theorem rackHeight_renumber (l : Line) :
    rackHeight (l.renumber f) = (rackHeight l).mapError (Error.renumber f) := by
  by_cases hint : ∃ digits n, Numeral.Integer l.text digits n
  · obtain ⟨digits, n, hint⟩ := hint
    rw [rackHeight_of_integer hint, rackHeight_of_integer (l := l.renumber f) hint]
    split
    · rfl
    split <;> rfl
  · rw [rackHeight_of_not_integer hint, rackHeight_of_not_integer (l := l.renumber f) hint]
    rfl

theorem deviceOf_renumber (l : Line) :
    deviceOf (l.renumber f) = (deviceOf l).mapError (Error.renumber f) := by
  unfold deviceOf readItem
  rw [Line.renumber]
  cases Item.split (trim (l.text.drop 1)) with
  | none =>
    dsimp only
    split <;> rfl
  | some item =>
    dsimp only
    rw [device_eq_ite, device_eq_ite]
    split
    · rfl
    split
    · rfl
    split <;> rfl

theorem devices_renumber (ls : List Line) :
    (ls.map (Line.renumber f)).mapM deviceOf = (ls.mapM deviceOf).mapError (Error.renumber f) := by
  induction ls with
  | nil => rfl
  | cons l ls ih =>
    rw [List.map_cons, List.mapM_cons, List.mapM_cons, deviceOf_renumber, ih, mapError_bind]
    refine congrArg (_ >>= ·) (funext fun d => ?_)
    rw [mapError_bind]
    rfl

/-- The readers give the same with other numbers, but for the number of a fault. -/
def Renumbers (read read' : Nat → List Line → Except Error β) : Prop :=
  ∀ last ls, read' (f last) (ls.map (Line.renumber f)) = (read last ls).mapError (Error.renumber f)

/-- What comes of the line may hold its number, as `g` tells. -/
theorem renumbers_byLine {judge : Line → Except Error α} {g : α → α}
    (hjudge : ∀ l, judge (l.renumber f) = ((judge l).map g).mapError (Error.renumber f))
    {read read' : α → Nat → List Line → Except Error β}
    (hread : ∀ a, Renumbers f (read a) (read' (g a))) :
    Renumbers f (byLine judge read) (byLine judge read') := by
  intro last ls
  cases ls with
  | nil => rfl
  | cons l rest =>
    show (judge (l.renumber f) >>= fun a => read' a (f last) (rest.map (Line.renumber f))) =
      (judge l >>= fun a => read a last rest).mapError (Error.renumber f)
    rw [hjudge, mapError_bind]
    cases judge l with
    | error e => rfl
    | ok a => exact hread a last rest

theorem renumbers_list (k : List Device → β) :
    Renumbers f (fun _ ls => (ls.takeWhile isItem).mapM deviceOf >>= fun devices => pure (k devices))
      (fun _ ls => (ls.takeWhile isItem).mapM deviceOf >>= fun devices => pure (k devices)) := by
  intro last ls
  have hitems : (ls.map (Line.renumber f)).takeWhile isItem =
      (ls.takeWhile isItem).map (Line.renumber f) := List.takeWhile_map ..
  dsimp only
  rw [hitems, devices_renumber, mapError_bind]
  rfl

theorem renumbers_heightLine (l : Line) : (keyword "height:" (l.renumber f) >>= rackHeight) =
    ((keyword "height:" l >>= rackHeight).map id).mapError (Error.renumber f) := by
  rw [keyword_renumber, Except.map_id, id, mapError_bind]
  cases keyword "height:" l with
  | error e => rfl
  | ok line => exact rackHeight_renumber f line

theorem readLines_renumber : Renumbers f readLines readLines := by
  have hlist : ∀ (caption : Line) height, Renumbers f (fun last => readList last caption height)
      fun last => readList last (caption.renumber f) height := by
    intro caption height
    rw [readList_eq_byLine, readList_eq_byLine]
    exact renumbers_byLine f (keyword_renumber f _) fun _ => renumbers_list f _
  have hbody : ∀ caption : Line, Renumbers f (fun last => readBody last caption)
      fun last => readBody last (caption.renumber f) := by
    intro caption
    rw [readBody_eq_byLine, readBody_eq_byLine]
    exact renumbers_byLine f (renumbers_heightLine f) (hlist caption)
  rw [readLines_eq_byLine]
  exact renumbers_byLine f (keyword_renumber f _) hbody

end Renumbering

/-! ## Places -/

/-- Lines under their places, counted from zero. -/
def placed (ts : List (List Char)) : List Line := ts.zipIdx.map fun p => ⟨p.2, p.1⟩

/-- The number of the line at a place; one if there is none. -/
def numberAt (ls : List Line) (place : Nat) : Nat := (ls[place]?.map Line.number).getD 1

theorem placed_renumber (ls : List Line) :
    (placed (ls.map Line.text)).map (Line.renumber (numberAt ls)) = ls := by
  apply List.ext_getElem?
  intro i
  rw [placed, List.map_map, List.getElem?_map, List.getElem?_zipIdx, List.getElem?_map]
  cases hl : ls[i]? with
  | none => rfl
  | some l => simp [Line.renumber, numberAt, hl]

theorem number_lt_of_mem_placed {ts : List (List Char)} {l : Line} (h : l ∈ placed ts) :
    l.number < ts.length := by
  obtain ⟨p, hp, rfl⟩ := List.mem_map.1 h
  obtain ⟨_, hlt, _⟩ := List.mem_zipIdx hp
  rwa [Nat.zero_add] at hlt

theorem numberAt_last (text : String) :
    numberAt (keptLines text.toList) ((kept text.toList).length - 1) =
      (Cursor.ofText text).lastNumber := by
  rw [Cursor.ofText, Cursor.lastNumber, numberAt, List.getLast?_eq_getElem?, length_keptLines]

theorem parse_eq_renumber (text : String) :
    parse text = (readLines ((kept text.toList).length - 1) (placed (kept text.toList))).mapError
      (Error.renumber (numberAt (keptLines text.toList))) := by
  rw [← readLines_renumber, numberAt_last, ← keptLines_text, placed_renumber, parse_eq]

/-- A fault has the place of a line, unless there is no line at all. -/
theorem place_of_fault {ts : List (List Char)} {fault : Fault} {place : Nat}
    (h : readLines (ts.length - 1) (placed ts) = .error (.format fault place)) :
    place < ts.length ∨ ts = [] ∧ fault = .endOfInput := by
  rcases locates_readLines _ _ _ _ h with ⟨hfault, hplace, _⟩ | ⟨_, before, l, after, hls, hplace, _⟩
  · cases ts with
    | nil => exact .inr ⟨rfl, hfault⟩
    | cons t ts =>
      rw [List.length_cons] at hplace ⊢
      exact .inl (by omega)
  · rw [hplace]
    exact .inl (number_lt_of_mem_placed (by rw [hls]; exact List.mem_append_right _ List.mem_cons_self))

theorem keptAt_numberAt {text : List Char} {place : Nat} (h : place < (kept text).length) :
    KeptAt text place (numberAt (keptLines text) place) := by
  rw [← length_keptLines] at h
  obtain ⟨l, hl⟩ : ∃ l, (keptLines text)[place]? = some l := ⟨_, List.getElem?_eq_getElem h⟩
  rw [numberAt, hl]
  exact keptAt_of_getElem? hl

/-! ## Two texts -/

/-- What it is for two texts to have the same outcome: equal results, or the same fault of the same
kept line, under its number in either text. -/
inductive SameOutcome (a b : List Char) : Except Error RackSet → Except Error RackSet → Prop
  | result (s : RackSet) : SameOutcome a b (.ok s) (.ok s)
  | numeral (fault : Numeral.Fault) :
    SameOutcome a b (.error (.numeral fault)) (.error (.numeral fault))
  | fault (fault : Fault) {place m n : Nat} (hm : KeptAt a place m) (hn : KeptAt b place n) :
    SameOutcome a b (.error (.format fault m)) (.error (.format fault n))
  | empty (ha : kept a = []) (hb : kept b = []) :
    SameOutcome a b (.error (.format .endOfInput 1)) (.error (.format .endOfInput 1))

theorem sameOutcome_of_kept_eq {a b : String} (h : kept a.toList = kept b.toList) :
    SameOutcome a.toList b.toList (parse a) (parse b) := by
  rw [parse_eq_renumber a, parse_eq_renumber b, ← h]
  cases hread : readLines ((kept a.toList).length - 1) (placed (kept a.toList)) with
  | ok s => exact .result s
  | error e =>
    cases e with
    | numeral fault => exact .numeral fault
    | format fault place =>
      rcases place_of_fault hread with hplace | ⟨hnone, rfl⟩
      · exact .fault fault (keptAt_numberAt hplace) (keptAt_numberAt (h ▸ hplace))
      · have hnumber : ∀ text : List Char, kept text = [] → numberAt (keptLines text) place = 1 := by
          intro text htext
          rw [← keptLines_text, List.map_eq_nil_iff] at htext
          rw [numberAt, htext]
          rfl
        have hb : kept b.toList = [] := h ▸ hnone
        show SameOutcome _ _ (.error (.format .endOfInput _)) (.error (.format .endOfInput _))
        rw [hnumber _ hnone, hnumber _ hb]
        exact .empty hnone hb

/-- Blanks are put in where a line starts or ends: in front of it, after it, or as lines of their
own. -/
inductive Padding : List Char → List Char → Prop
  | pad {s blanks t : List Char} (h : Blanks blanks) (hplace : AtBreak s t) :
    Padding (s ++ t) (s ++ (blanks ++ t))

theorem kept_of_padding {a b : List Char} (h : Relation.EqvGen Padding a b) : kept a = kept b := by
  induction h with
  | rel _ _ hpad =>
    cases hpad with
    | pad hblanks hplace => exact (kept_insert_blanks hblanks hplace).symm
  | refl _ => rfl
  | symm _ _ _ ih => exact ih.symm
  | trans _ _ _ _ _ ih ih' => exact ih.trans ih'

theorem parse_layout :
    (∀ a b : String, kept a.toList = kept b.toList →
      SameOutcome a.toList b.toList (parse a) (parse b)) ∧
    (∀ text : String, parse (String.ofList (unifyBreaks text.toList)) = parse text) ∧
    ∀ a b : String, Relation.EqvGen Padding a.toList b.toList →
      SameOutcome a.toList b.toList (parse a) (parse b) := by
  refine ⟨fun a b => sameOutcome_of_kept_eq, ?_, fun a b h => sameOutcome_of_kept_eq (kept_of_padding h)⟩
  intro text
  have hlines : keptLines (unifyBreaks text.toList) = keptLines text.toList := by
    rw [keptLines, lines_unifyBreaks, keptLines]
  rw [parse_eq, parse_eq, Cursor.ofText, Cursor.ofText, String.toList_ofList, hlines]

/-- A text with an item that is too low, set with all kinds of breaks and blanks. -/
def loose : String := "\r\ncaption: A\r\rheight: 4\n \u2003items:\t\n\x0c\n- ups[0]: b\r"

/-- The same text without blank lines. -/
def tight : String := "caption: A\nheight: 4\nitems:\n- ups[0]: b"

theorem parse_layout_loose :
    (kept loose.toList = kept tight.toList ∧
      SameOutcome loose.toList tight.toList (parse loose) (parse tight)) ∧
    parse (String.ofList (unifyBreaks loose.toList)) = parse loose ∧
    Relation.EqvGen Padding tight.toList ("\n " ++ tight ++ "\x1c\r").toList ∧
    SameOutcome tight.toList ("\n " ++ tight ++ "\x1c\r").toList (parse tight)
      (parse ("\n " ++ tight ++ "\x1c\r")) := by
  obtain ⟨hkept, hbreaks, hpadding⟩ := parse_layout
  have hloose : kept loose.toList = kept tight.toList := by decide +kernel
  have hfront : Blanks "\n ".toList := List.all_eq_true.1 (by decide +kernel)
  have hback : Blanks "\x1c\r".toList := List.all_eq_true.1 (by decide +kernel)
  have hstart : Padding tight.toList ("\n ".toList ++ tight.toList) :=
    Padding.pad (s := []) (t := tight.toList) hfront (.inl fun c hc => nomatch hc)
  have hend : Padding ("\n ".toList ++ tight.toList) ("\n " ++ tight ++ "\x1c\r").toList := by
    have hpad := Padding.pad (s := "\n ".toList ++ tight.toList) (t := []) hback (.inr fun c hc => nomatch hc)
    rw [List.append_nil, List.append_nil] at hpad
    rwa [String.toList_append, String.toList_append]
  have hpad := Relation.EqvGen.trans _ _ _ (.rel _ _ hstart) (.rel _ _ hend)
  exact ⟨⟨hloose, hkept _ _ hloose⟩, hbreaks loose, hpad, hpadding _ _ hpad⟩

/-- The fault is that of the seventh line of the one text and the fourth of the other. -/
example : parse loose = .error (.format (.itemTooLow 0) 7) ∧
    parse tight = .error (.format (.itemTooLow 0) 4) := by decide +kernel

end RackElevation.RackText
