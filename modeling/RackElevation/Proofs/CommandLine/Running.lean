import RackElevation.CommandLine
import RackElevation.Proofs.Settings
import RackElevation.Proofs.Storage.Store
import RackElevation.Proofs.Text.CodePoint

/-
  The course of a run

  A run of the command line first works out what to draw, which needs the files
  and the streams only to be looked at, and acts on them once there is a drawing.
  So whatever fails before leaves everything outside as it was, but for what a
  report adds to the error stream. Only the encoding of the drawing can fail later,
  and a file for it is then there, and empty.

  What is proved:
    1. `draw_run_ok`, `draw_run_error` — drawing is working out a drawing and then
       delivering it.
    2. `deliver_run_printed`, `deliver_run_written` — the two ways to deliver it.
    3. `Fails.perform_run`, `fails_or_delivers` — a run that fails, and any other.
-/

namespace RackElevation.CommandLine

open Text Outcome

/-- The level to log at and the drawing, worked out from what is outside. -/
def plan (a : Arguments) (w : World) (store : Store) :
    Except Failure (Level × List CodePoint) := do
  let settings ← (Settings.load w.levels store a.config w.config).mapError Failure.settings
  let source ← readSource a w.input store
  let drawing ← (Conversion.convertUnder (linkBase a settings) (dialect a settings) source).mapError
    Failure.conversion
  return (settings.logLevel, drawing)

section Steps

variable {α β : Type}

theorem get_bind_run (f : Outside → Acting β) (o : Outside) : (get >>= f).run o = (f o).run o := rfl

/-- A step that only computes changes nothing outside. -/
theorem lift_run_ok {x : Except Failure α} {a : α} (h : x = .ok a) (f : α → Acting β)
    (o : Outside) : ((liftM x : Acting α) >>= f).run o = (f a).run o := by
  subst h
  rfl

theorem lift_run_error {x : Except Failure α} {e : Failure} (h : x = .error e) (f : α → Acting β)
    (o : Outside) : ((liftM x : Acting α) >>= f).run o = (.error e, o) := by
  subst h
  rfl

theorem bind_run (m : Acting α) (f : α → Acting β) (o : Outside) :
    (m >>= f).run o =
      match m.run o with
      | (.error e, o') => (.error e, o')
      | (.ok a, o') => (f a).run o' := by
  show (match m.run o with | (x, o') => ExceptT.bindCont f x o') = _
  rcases m.run o with ⟨_ | _, _⟩ <;> rfl

theorem tryCatch_run (m : Acting α) (handle : Failure → Acting α) (o : Outside) :
    (tryCatch m handle).run o =
      match m.run o with
      | (.error e, o') => (handle e).run o'
      | (.ok a, o') => (.ok a, o') := by
  simp only [tryCatch, tryCatchThe, MonadExceptOf.tryCatch, ExceptT.tryCatch, ExceptT.run,
    ExceptT.mk, bind, StateT.bind]
  rcases m o with ⟨_ | _, _⟩ <;> rfl

end Steps

section Drawing

variable {a : Arguments} {w : World} {o : Outside}

theorem draw_run_ok {level : Level} {drawing : List CodePoint}
    (h : plan a w o.store = .ok (level, drawing)) :
    (draw a w).run o = (deliver a level drawing).run o := by
  obtain ⟨settings, hsettings, h⟩ := bind_eq_ok.1 h
  obtain ⟨source, hsource, h⟩ := bind_eq_ok.1 h
  obtain ⟨svg, hsvg, h⟩ := bind_eq_ok.1 h
  cases h
  rw [draw, get_bind_run, lift_run_ok hsettings, get_bind_run, lift_run_ok hsource,
    lift_run_ok hsvg]

theorem draw_run_error {e : Failure} (h : plan a w o.store = .error e) :
    (draw a w).run o = (.error e, o) := by
  rw [draw, get_bind_run]
  rcases bind_eq_error.1 h with hsettings | ⟨settings, hsettings, h⟩
  · rw [lift_run_error hsettings]
  rw [lift_run_ok hsettings, get_bind_run]
  rcases bind_eq_error.1 h with hsource | ⟨source, hsource, h⟩
  · rw [lift_run_error hsource]
  rw [lift_run_ok hsource]
  rcases bind_eq_error.1 h with hsvg | ⟨svg, _, h⟩
  · rw [lift_run_error hsvg]
  · cases h

/-- A text that cannot be encoded is not printed at all. -/
theorem print_run (text : List CodePoint) : (print text).run o =
    match CodePoint.chars text with
    | .ok s => (.ok (), { o with output := o.output ++ String.ofList s })
    | .error r => (.error (.unencodable r), o) := by
  rw [print]
  cases hchars : CodePoint.chars text with
  | ok s => exact lift_run_ok (mapError_eq_ok.2 hchars) _ _
  | error r => exact lift_run_error (mapError_eq_error.2 ⟨r, hchars, rfl⟩) _ _

theorem openFile_run (path : Path) : (openFile path).run o =
    match o.store.target path with
    | .ok place => (.ok place, { o with store := o.store.put place (.file []) })
    | .error fault => (.error (.unusable path fault), o) := by
  rw [openFile, get_bind_run]
  cases o.store.target path <;> rfl

/-- A text that cannot be encoded leaves an empty file. -/
theorem writeFile_run (path : Path) (text : List CodePoint) : (writeFile path text).run o =
    match o.store.target path, CodePoint.chars text with
    | .error fault, _ => (.error (.unusable path fault), o)
    | .ok place, .ok s =>
      (.ok (), { o with store := o.store.put place (.file (Utf8.encode s)) })
    | .ok place, .error r =>
      (.error (.unencodable r), { o with store := o.store.put place (.file []) }) := by
  rw [writeFile, bind_run, openFile_run]
  cases o.store.target path with
  | error fault => rfl
  | ok place =>
    cases hchars : CodePoint.chars text with
    | error r => exact lift_run_error (mapError_eq_error.2 ⟨r, hchars, rfl⟩) _ _
    | ok s =>
      show _ = (Except.ok (), { o with store := o.store.put place (.file (Utf8.encode s)) })
      rw [← Store.put_put o.store place (.file [])]
      exact lift_run_ok (mapError_eq_ok.2 hchars) _ _

/-- The text that is printed or written for a drawing. -/
def finished (drawing : List CodePoint) : List CodePoint := drawing ++ [.char '\n']

theorem deliver_run_printed (h : given a.output = none) (level : Level)
    (drawing : List CodePoint) : (deliver a level drawing).run o =
      match CodePoint.chars (finished drawing) with
      | .ok s => (.ok (), { o with output := o.output ++ String.ofList s })
      | .error r => (.error (.unencodable r), o) := by
  rw [deliver, h]
  exact print_run _

theorem deliver_run_written {name : String} (h : given a.output = some name) (level : Level)
    (drawing : List CodePoint) : (deliver a level drawing).run o =
      match o.store.target (Path.ofText name.toList), CodePoint.chars (finished drawing) with
      | .error fault, _ => (.error (.unusable (Path.ofText name.toList) fault), o)
      | .ok place, .ok s => (.ok (), { o with
          store := o.store.put place (.file (Utf8.encode s))
          errors := o.errors ++
            if level.logs .info then "INFO:cli:wrote " ++ name ++ "\n" else "" })
      | .ok place, .error r =>
        (.error (.unencodable r), { o with store := o.store.put place (.file []) }) := by
  rw [deliver, h, bind_run, writeFile_run, finished]
  cases o.store.target (Path.ofText name.toList) with
  | error fault => rfl
  | ok place => cases CodePoint.chars (drawing ++ [.char '\n']) <;> rfl

end Drawing

section Performing

variable {args : List String} {a : Arguments} {w : World} {o o' : Outside}

theorem perform_run_ok (hread : Arguments.read args = .ok a) (h : (draw a w).run o = (.ok (), o')) :
    (perform args w).run o = (.ok 0, o') := by
  rw [perform, hread]
  show (tryCatch (draw a w >>= fun _ => pure 0) report).run o = _
  rw [tryCatch_run, bind_run, h]
  rfl

theorem perform_run_error {e : Failure} (hread : Arguments.read args = .ok a)
    (h : (draw a w).run o = (.error e, o')) : (perform args w).run o = (report e).run o' := by
  rw [perform, hread]
  show (tryCatch (draw a w >>= fun _ => pure 0) report).run o = _
  rw [tryCatch_run, bind_run, h]

theorem perform_run_usage {f : Arguments.Fault} (hread : Arguments.read args = .error (.fault f)) :
    (perform args w).run o = (report (.usage f)).run o := by
  rw [perform, hread]

/-- What ends a run, and what is outside then: the arguments, something on the way to a drawing, the
file for it, or a surrogate in it. -/
inductive Fails (args : List String) (w : World) : Failure → Outside → Prop
  | arguments {f : Arguments.Fault} :
    Arguments.read args = .error (.fault f) → Fails args w (.usage f) w.outside
  | planning {a : Arguments} {e : Failure} :
    Arguments.read args = .ok a → plan a w w.store = .error e → Fails args w e w.outside
  | target {a : Arguments} {level : Level} {drawing : List CodePoint} {name : String}
      {fault : Store.Fault} :
    Arguments.read args = .ok a → plan a w w.store = .ok (level, drawing) →
    given a.output = some name → w.store.target (Path.ofText name.toList) = .error fault →
    Fails args w (.unusable (Path.ofText name.toList) fault) w.outside
  | printing {a : Arguments} {level : Level} {drawing : List CodePoint} {r : CodePoint.Run} :
    Arguments.read args = .ok a → plan a w w.store = .ok (level, drawing) →
    given a.output = none → CodePoint.chars (finished drawing) = .error r →
    Fails args w (.unencodable r) w.outside
  | writing {a : Arguments} {level : Level} {drawing : List CodePoint} {name : String}
      {place : Place} {r : CodePoint.Run} :
    Arguments.read args = .ok a → plan a w w.store = .ok (level, drawing) →
    given a.output = some name → w.store.target (Path.ofText name.toList) = .ok place →
    CodePoint.chars (finished drawing) = .error r →
    Fails args w (.unencodable r) { w.outside with store := w.store.put place (.file []) }

theorem Fails.perform_run {e : Failure} (h : Fails args w e o) :
    (perform args w).run w.outside = (report e).run o := by
  -- past the plan, the failure is that of the delivery
  cases h with
  | arguments hread => exact perform_run_usage hread
  | planning hread hplan => exact perform_run_error hread (draw_run_error hplan)
  | target hread hplan houtput htarget =>
    apply perform_run_error hread
    rw [draw_run_ok (o := w.outside) hplan, deliver_run_written houtput, World.outside, htarget]
  | printing hread hplan houtput hchars =>
    apply perform_run_error hread
    rw [draw_run_ok (o := w.outside) hplan, deliver_run_printed houtput, hchars]
  | writing hread hplan houtput htarget hchars =>
    apply perform_run_error hread
    rw [draw_run_ok (o := w.outside) hplan, deliver_run_written houtput, World.outside, htarget,
      hchars]

/-- A text is where the arguments want it, and nothing else has changed but the error stream. -/
inductive Delivered (store : Store) (output : Option String) (text : String) (o : Outside) : Prop
  | printed : FirstGiven [output] none → o.output = text → o.store = store →
    Delivered store output text o
  | written {name : String} {place : Place} : FirstGiven [output] (some name) →
    store.locate (Path.ofText name.toList) = .ok place →
    store.HoldsFile o.store place (Utf8.encode text.toList) → o.output = "" →
    Delivered store output text o

theorem chars_finished_ok {drawing : List CodePoint} {text : List Char}
    (h : CodePoint.chars (finished drawing) = .ok text) :
    ∃ s, drawing = CodePoint.ofString s ∧ text = (s ++ "\n").toList := by
  obtain ⟨t, line, rfl, ht, hline⟩ := List.map_eq_append_iff.1 (CodePoint.chars_eq_ok.1 h).symm
  obtain ⟨c, rfl, hc⟩ := List.map_eq_singleton_iff.1 hline
  cases hc
  refine ⟨String.ofList t, ?_, ?_⟩
  · rw [CodePoint.ofString, String.toList_ofList, CodePoint.ofChars, ht]
  · rw [String.toList_append, String.toList_ofList]
    rfl

theorem chars_finished_error {drawing : List CodePoint} :
    (∃ r, CodePoint.chars (finished drawing) = .error r) ↔ ∃ k, .surrogate k ∈ drawing := by
  rw [← CodePoint.exists_surrogate_iff]
  refine exists_congr fun k => ?_
  rw [finished, List.mem_append, or_iff_left]
  exact fun h => nomatch List.mem_singleton.1 h

/-- A run that is not asked for help fails, or it delivers a drawing and ends with status 0. -/
theorem fails_or_delivers (hhelp : Arguments.read args ≠ .error .help) :
    (∃ e o, Fails args w e o) ∨
    ∃ a level drawing o, Arguments.read args = .ok a ∧
      plan a w w.store = .ok (level, CodePoint.ofString drawing) ∧
      Delivered w.store a.output (drawing ++ "\n") o ∧
      (perform args w).run w.outside = (.ok 0, o) := by
  cases hread : Arguments.read args with
  | error stop =>
    cases stop with
    | help => exact absurd hread hhelp
    | fault f => exact .inl ⟨_, _, .arguments hread⟩
  | ok a =>
    cases hplan : plan a w w.store with
    | error e => exact .inl ⟨e, _, .planning hread hplan⟩
    | ok planned =>
      obtain ⟨level, drawing⟩ := planned
      have hdraw := draw_run_ok (o := w.outside) hplan
      cases hchars : CodePoint.chars (finished drawing) with
      | error r =>
        cases houtput : given a.output with
        | none => exact .inl ⟨_, _, .printing hread hplan houtput hchars⟩
        | some name =>
          cases htarget : w.store.target (Path.ofText name.toList) with
          | error fault => exact .inl ⟨_, _, .target hread hplan houtput htarget⟩
          | ok place => exact .inl ⟨_, _, .writing hread hplan houtput htarget hchars⟩
      | ok text =>
        obtain ⟨s, rfl, rfl⟩ := chars_finished_ok hchars
        cases houtput : given a.output with
        | none =>
          rw [deliver_run_printed houtput, hchars] at hdraw
          refine .inr ⟨a, level, s, _, rfl, hplan, ?_, perform_run_ok hread hdraw⟩
          refine .printed (firstGiven_one.2 houtput) ?_ rfl
          rw [String.ofList_toList]
          exact String.empty_append
        | some name =>
          cases htarget : w.store.target (Path.ofText name.toList) with
          | error fault => exact .inl ⟨_, _, .target hread hplan houtput htarget⟩
          | ok place =>
            obtain ⟨hplace, hfree⟩ := Store.target_eq_ok.1 htarget
            rw [deliver_run_written houtput, World.outside, htarget, hchars] at hdraw
            refine .inr ⟨a, level, s, _, rfl, hplan, ?_, perform_run_ok hread hdraw⟩
            exact .written (firstGiven_one.2 houtput) hplace (Store.holds_put hfree) rfl

end Performing

end RackElevation.CommandLine
