import RackElevation.Proofs.CommandLine.Running
import RackElevation.Proofs.Conversion

/-
  All or nothing

  A run of the command line either ends with status 0, and then the drawing of its
  source is all that it has written, to standard output or to one file; or it has
  written nothing but what it tells on the error stream. Which source is drawn, in
  which dialect and with which links follows from the arguments, the settings and
  the name of the input, in this order.

  There is one way in between. A settings file can put a surrogate into the base
  for links, and from there it comes into the drawing. Such a drawing cannot be
  encoded, which comes out only once the file for it is open: the run then ends
  without a status, and what the file held is gone.

  What is proved:
    1. `sourceOf_readSource`, `dialectOf_dialect`, `baseOf_linkBase` — what a run
       draws.
    2. `Spoils.settings_base` — what such a run has gone by.
    3. `perform_all_or_nothing` — a run is all or nothing unless it empties a file
       in this way.
    4. `perform_overwriting` (anti-vacuity) — a file that is drawn over itself,
       and a run that leaves it alone.
    5. `perform_not_all_or_nothing` (anti-vacuity) — a run that leaves an empty
       file.
-/

namespace RackElevation.CommandLine

open Text Outcome

/-- The source that arguments name: a text that is given, or else the file of an input that is not
empty, or else standard input. -/
inductive SourceOf (w : World) (a : Arguments) : String → Prop
  | text {source : String} : a.text = some source → SourceOf w a source
  | file {name : String} {bytes : List UInt8} {source : List Char} :
    a.text = none → FirstGiven [a.input] (some name) →
    w.store.read (Path.ofText name.toList) = .ok bytes → Utf8.decode bytes = .ok source →
    SourceOf w a (String.ofList (unifyBreaks source))
  | standardInput {source : List Char} :
    a.text = none → FirstGiven [a.input] none → Utf8.decode w.input = .ok source →
    SourceOf w a (String.ofList (unifyBreaks source))

/-- The name of a file ends like those of files in the XML dialect. -/
def MarkupName (name : String) : Prop :=
  String.ofList ((Path.ofText name.toList).suffix.map lowerChar) ∈ [".xml", ".rackml"]

/-- The dialect of a source: the one that is given, or else that of the name of the input, or else
that of the settings. -/
inductive DialectOf (settings : Settings.Loaded) (a : Arguments) : String → Prop
  | given {name : String} : FirstGiven [a.dialect] (some name) → DialectOf settings a name
  | byName {input : String} : FirstGiven [a.dialect] none → a.input = some input →
    MarkupName input → DialectOf settings a "rack-xml"
  | byDefault : FirstGiven [a.dialect] none → (∀ input ∈ a.input, ¬MarkupName input) →
    DialectOf settings a settings.dialect

/-- The base for links: the one that is given, or else that of the settings, if any is not empty. -/
inductive BaseOf (settings : Settings.Loaded) (a : Arguments) : Option (List CodePoint) → Prop
  | given {base : String} : FirstGiven [a.linkBase] (some base) →
    BaseOf settings a (some (CodePoint.ofString base))
  | settings {base : List CodePoint} : FirstGiven [a.linkBase] none →
    settings.linkBase = some base → base ≠ [] → BaseOf settings a (some base)
  | nothing : FirstGiven [a.linkBase] none → (∀ base ∈ settings.linkBase, base = []) →
    BaseOf settings a none

theorem sourceOf_readSource {w : World} {a : Arguments} {source : String}
    (h : readSource a w.input w.store = .ok source) : SourceOf w a source := by
  unfold readSource at h
  split at h
  · cases h
  · next htext =>
    cases h
    exact .text htext
  · next name hinput htext =>
    obtain ⟨bytes, hbytes, h⟩ := bind_eq_ok.1 h
    obtain ⟨chars, hchars, h⟩ := bind_eq_ok.1 h
    cases h
    exact .file htext (firstGiven_one.2 hinput) (mapError_eq_ok.1 hbytes) (mapError_eq_ok.1 hchars)
  · next hinput htext =>
    obtain ⟨chars, hchars, h⟩ := bind_eq_ok.1 h
    cases h
    exact .standardInput htext (firstGiven_one.2 hinput) (mapError_eq_ok.1 hchars)

theorem dialectOf_dialect (settings : Settings.Loaded) (a : Arguments) :
    DialectOf settings a (dialect a settings) := by
  unfold dialect
  cases hgiven : given a.dialect with
  | some name => exact .given (firstGiven_one.2 hgiven)
  | none =>
    have hnone := firstGiven_one.2 hgiven
    cases hinput : a.input with
    | none =>
      refine .byDefault hnone ?_
      rw [hinput]
      exact fun _ h => nomatch h
    | some input =>
      rw [Option.getD_none, guessDialect]
      split
      · next hmarkup => exact .byName hnone hinput (List.contains_iff_mem.1 hmarkup)
      · next hother =>
        refine .byDefault hnone ?_
        rw [hinput]
        intro _ h
        cases h
        exact fun hmarkup => hother (List.contains_iff_mem.2 hmarkup)

theorem baseOf_linkBase (settings : Settings.Loaded) (a : Arguments) :
    BaseOf settings a (linkBase a settings) := by
  unfold linkBase
  cases hgiven : given a.linkBase with
  | some base => exact .given (firstGiven_one.2 hgiven)
  | none =>
    have hnone := firstGiven_one.2 hgiven
    rw [Option.map_none, Option.none_or]
    cases hbase : settings.linkBase.filter fun base => !base.isEmpty with
    | some base =>
      obtain ⟨hsome, hne⟩ := Option.filter_eq_some_iff.1 hbase
      exact .settings hnone hsome (by simpa using hne)
    | none =>
      refine .nothing hnone fun base hmem => ?_
      simpa using Option.filter_eq_none_iff.1 hbase base hmem

/-! ## The end of a run -/

/-- A drawing is that of the source, the dialect and the base that a run goes by. If the base has no
surrogates, the drawing is the plain conversion of the source. -/
inductive DrawingOf (w : World) (a : Arguments) (settings : Settings.Loaded) (drawing : String) : Prop
  | intro {source dialect : String} {base : Option (List CodePoint)} : SourceOf w a source →
    DialectOf settings a dialect → BaseOf settings a base →
    Conversion.convertUnder base dialect source = .ok (CodePoint.ofString drawing) →
    (∀ b : Option String, base = b.map CodePoint.ofString →
      Conversion.convert (Link.resolver? b) dialect source = .ok drawing) →
    DrawingOf w a settings drawing

/-- A run either has written the drawing as it should and nothing else, or it has written nothing. -/
structure AllOrNothing (args : List String) (w : World) (outcome : Except Failure Nat)
    (o : Outside) : Prop where
  nothing : outcome ≠ .ok 0 → (outcome = .ok 2 ∨ ∃ e, outcome = .error e) ∧ o.output = "" ∧
    ∀ place, o.store.get? place = w.store.get? place
  all : outcome = .ok 0 → ∃ a settings drawing, Arguments.read args = .ok a ∧
    Settings.load w.levels w.store a.config w.config = .ok settings ∧
    DrawingOf w a settings drawing ∧ Delivered w.store a.output (drawing ++ "\n") o

/-- A run empties the file at a place: it draws a surrogate, and is to write the drawing there. -/
inductive Spoils (args : List String) (w : World) (place : Place) : Prop
  | intro {a : Arguments} {level : Level} {drawing : List CodePoint} {k : Fin 2048} {name : String} :
    Arguments.read args = .ok a → plan a w w.store = .ok (level, drawing) →
    .surrogate k ∈ drawing → FirstGiven [a.output] (some name) →
    w.store.target (Path.ofText name.toList) = .ok place →
    w.store.get? place ≠ some (.file []) → Spoils args w place

variable {args : List String} {a : Arguments} {w : World} {o : Outside} {place : Place}

theorem drawingOf_plan {level : Level} {drawing : String}
    (h : plan a w w.store = .ok (level, CodePoint.ofString drawing)) :
    ∃ settings, Settings.load w.levels w.store a.config w.config = .ok settings ∧
      DrawingOf w a settings drawing := by
  obtain ⟨settings, hsettings, h⟩ := bind_eq_ok.1 h
  obtain ⟨source, hsource, h⟩ := bind_eq_ok.1 h
  obtain ⟨svg, hsvg, h⟩ := bind_eq_ok.1 h
  obtain ⟨-, rfl⟩ := Prod.mk.inj (Except.ok.inj h)
  have hunder := mapError_eq_ok.1 hsvg
  refine ⟨settings, mapError_eq_ok.1 hsettings, .intro (sourceOf_readSource hsource)
    (dialectOf_dialect settings a) (baseOf_linkBase settings a) hunder fun b hb => ?_⟩
  have hplain := Conversion.convertUnder_eq_ofString hunder
  rwa [hb, Conversion.standInBase_ofString] at hplain

theorem Spoils.perform_run (h : Spoils args w place) : ∃ r, (perform args w).run w.outside =
    (.error (.unencodable r), { w.outside with store := w.store.put place (.file []) }) := by
  cases h with
  | intro hread hplan hsurrogate houtput htarget =>
    obtain ⟨r, hchars⟩ := chars_finished_error.2 ⟨_, hsurrogate⟩
    refine ⟨r, ?_⟩
    exact (Fails.writing hread hplan (firstGiven_one.1 houtput) htarget hchars).perform_run

theorem Spoils.status_ne (h : Spoils args w place) (status : Nat) :
    ((perform args w).run w.outside).1 ≠ .ok status := by
  obtain ⟨r, hspoiled⟩ := h.perform_run
  rw [hspoiled]
  exact fun h => nomatch h

/-- Only the base of a settings file spoils a file, and only if no other base is given. -/
theorem Spoils.settings_base (h : Spoils args w place) : ∃ a settings base k,
    Arguments.read args = .ok a ∧
    Settings.load w.levels w.store a.config w.config = .ok settings ∧
    FirstGiven [a.linkBase] none ∧ settings.linkBase = some base ∧ .surrogate k ∈ base := by
  cases h with
  | @intro a level drawing k name hread hplan hk =>
    obtain ⟨settings, hsettings, hplan⟩ := bind_eq_ok.1 hplan
    obtain ⟨source, _, hplan⟩ := bind_eq_ok.1 hplan
    obtain ⟨svg, hsvg, hplan⟩ := bind_eq_ok.1 hplan
    obtain ⟨-, rfl⟩ := Prod.mk.inj (Except.ok.inj hplan)
    obtain ⟨base, hbase, j, hj⟩ := Conversion.exists_surrogate_base (mapError_eq_ok.1 hsvg) hk
    have hof := baseOf_linkBase settings a
    rw [hbase] at hof
    cases hof with
    | given =>
      obtain ⟨r, hr⟩ := CodePoint.exists_surrogate_iff.1 ⟨j, hj⟩
      rw [CodePoint.ofString, CodePoint.chars_ofChars] at hr
      cases hr
    | settings hnone hsome =>
      exact ⟨a, settings, base, j, hread, mapError_eq_ok.1 hsettings, hnone, hsome, hj⟩

theorem Spoils.holdsFile (h : Spoils args w place) :
    w.store.HoldsFile (w.store.put place (.file [])) place [] := by
  cases h with
  | intro _ _ _ _ htarget => exact Store.holds_put (Store.target_eq_ok.1 htarget).2

theorem Spoils.not_allOrNothing (h : Spoils args w place) {outcome : Except Failure Nat}
    (hrun : (perform args w).run w.outside = (outcome, o)) : ¬AllOrNothing args w outcome o := by
  obtain ⟨r, hspoiled⟩ := h.perform_run
  cases hrun.symm.trans hspoiled
  intro hall
  have hsame := (hall.nothing fun h => nomatch h).2.2 place
  rw [h.holdsFile.file] at hsame
  cases h with
  | intro _ _ _ _ _ hother => exact hother hsame.symm

/-- A run that fails without emptying a file leaves all files as they were. -/
theorem Fails.unchanged {e : Failure} (h : Fails args w e o) (hspoils : ∀ place, ¬Spoils args w place) :
    o.output = "" ∧ ∀ place, o.store.get? place = w.store.get? place := by
  cases h with
  | writing hread hplan houtput htarget hchars =>
    rename_i target _
    refine ⟨rfl, fun place => ?_⟩
    have hput : w.store.HoldsFile (w.store.put target (.file [])) target [] :=
      Store.holds_put (Store.target_eq_ok.1 htarget).2
    by_cases hplace : place = target
    · subst hplace
      obtain ⟨k, hk⟩ := chars_finished_error.1 ⟨_, hchars⟩
      refine hput.file.trans (Classical.byContradiction fun hother => hspoils place ?_)
      exact .intro hread hplan hk (firstGiven_one.2 houtput) htarget (Ne.symm hother)
    · exact hput.others place hplace
  | _ => exact ⟨rfl, fun _ => rfl⟩

theorem Fails.allOrNothing {e : Failure} (h : Fails args w e o)
    (hspoils : ∀ place, ¬Spoils args w place) {outcome : Except Failure Nat} {o' : Outside}
    (hrun : (report e).run o = (outcome, o')) : AllOrNothing args w outcome o' := by
  rw [report_run] at hrun
  split at hrun
  · cases hrun
    exact ⟨fun _ => ⟨.inl rfl, h.unchanged hspoils⟩, fun h => nomatch h⟩
  · cases hrun
    exact ⟨fun _ => ⟨.inr ⟨e, rfl⟩, h.unchanged hspoils⟩, fun h => nomatch h⟩

theorem perform_all_or_nothing {args : List String} (hhelp : Arguments.read args ≠ .error .help)
    (w : World) {outcome : Except Failure Nat} {o : Outside}
    (h : (perform args w).run w.outside = (outcome, o)) :
    (AllOrNothing args w outcome o ↔ ∀ place, ¬Spoils args w place) ∧
    ∀ place, Spoils args w place → (∃ r, outcome = .error (.unencodable r)) ∧ o.output = "" ∧
      w.store.HoldsFile o.store place [] := by
  refine ⟨⟨fun hall place hspoils => hspoils.not_allOrNothing h hall, fun hspoils => ?_⟩, ?_⟩
  · rcases fails_or_delivers (w := w) hhelp with
      ⟨e, o', hfails⟩ | ⟨a, level, drawing, o', hread, hplan, hdelivered, hrun⟩
    · exact hfails.allOrNothing hspoils (hfails.perform_run.symm.trans h)
    · cases hrun.symm.trans h
      obtain ⟨settings, hsettings, hdrawing⟩ := drawingOf_plan hplan
      exact ⟨fun h => absurd rfl h, fun _ =>
        ⟨a, settings, drawing, hread, hsettings, hdrawing, hdelivered⟩⟩
  · intro place hspoils
    obtain ⟨r, hspoiled⟩ := hspoils.perform_run
    cases hspoiled.symm.trans h
    exact ⟨⟨r, rfl⟩, rfl, hspoils.holdsFile⟩

/-! ## A file that is drawn over itself -/

/-- A folder with one file, which holds a rack. -/
def shelf : World :=
  { store := { entries := [(["a.xml".toList],
      .file (Utf8.encode "<racks><rack height=\"2\"/></racks>".toList))] } }

/-- The run that puts the drawing of that file in its place. -/
def overwriting : Except Failure Nat × Outside :=
  (perform ["a.xml", "-o", "a.xml"] shelf).run shelf.outside

/-- The run that asks for a dialect that there is not. -/
def misdirected : Except Failure Nat × Outside :=
  (perform ["a.xml", "-o", "a.xml", "--dialect", "yaml"] shelf).run shelf.outside

theorem status_of_toOption {x : Except Failure Nat} {n : Nat} (h : x.toOption = some n) :
    x = .ok n := by
  cases x with
  | error e => cases h
  | ok m =>
    cases h
    rfl

theorem perform_overwriting :
    (overwriting.1 = .ok 0 ∧
      AllOrNothing ["a.xml", "-o", "a.xml"] shelf overwriting.1 overwriting.2) ∧
    misdirected.1 = .ok 2 ∧
      AllOrNothing ["a.xml", "-o", "a.xml", "--dialect", "yaml"] shelf misdirected.1 misdirected.2 := by
  constructor
  · have hhelp : Arguments.read ["a.xml", "-o", "a.xml"] ≠ .error .help := by decide
    have hrun : (perform ["a.xml", "-o", "a.xml"] shelf).run shelf.outside =
      (overwriting.1, overwriting.2) := (Prod.eta overwriting).symm
    have hdrawn : overwriting.1 = .ok 0 := status_of_toOption (by decide +kernel)
    exact ⟨hdrawn, (perform_all_or_nothing hhelp shelf hrun).1.2 fun _ hspoils =>
      hspoils.status_ne 0 hdrawn⟩
  · have hhelp : Arguments.read ["a.xml", "-o", "a.xml", "--dialect", "yaml"] ≠ .error .help := by
      decide
    have hrun : (perform ["a.xml", "-o", "a.xml", "--dialect", "yaml"] shelf).run shelf.outside =
      (misdirected.1, misdirected.2) := (Prod.eta misdirected).symm
    have hrefused : misdirected.1 = .ok 2 := status_of_toOption (by decide +kernel)
    exact ⟨hrefused, (perform_all_or_nothing hhelp shelf hrun).1.2 fun _ hspoils =>
      hspoils.status_ne 2 hrefused⟩

/-! ## A drawing that cannot be encoded -/

/-- A folder with a settings file that puts a surrogate in front of links. -/
def surrogateBase : World :=
  { store := { entries := [(["s.yaml".toList],
      .file (Utf8.encode "internal_link_base: \"\\uD800\"\n".toList))] } }

/-- The arguments to draw a rack with one device, whose label is a link. -/
def linkedLabel : List String :=
  ["--config", "s.yaml", "--text", "caption: a\nheight: 1\nitems:\n- server: [x](y)", "-o", "out.svg"]

/-- The run that ends with an empty file. -/
def emptying : Except Failure Nat × Outside :=
  (perform linkedLabel surrogateBase).run surrogateBase.outside

theorem perform_not_all_or_nothing :
    ¬AllOrNothing linkedLabel surrogateBase emptying.1 emptying.2 := by
  obtain ⟨hending, hemptied⟩ : emptying.1.toOption = none ∧
      emptying.2.store.get? ["out.svg".toList] = some (.file []) := by decide +kernel
  intro h
  obtain ⟨_, _, hsame⟩ := h.nothing fun hzero => by
    rw [hzero] at hending
    cases hending
  have hnew : surrogateBase.store.get? ["out.svg".toList] = none := by decide
  rw [hsame, hnew] at hemptied
  cases hemptied

end RackElevation.CommandLine
