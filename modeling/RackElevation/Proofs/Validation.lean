import RackElevation.Proofs.Data.Model

/-
  Validation

  For every path into data it is declared which model stands there, if any does.
  What is not as declared, however deep it stands, is reported where it stands:
  a field that a model does not have, a device without a type, a number below
  one. No record can stand where no model is declared.

  What is accepted keeps all bounds, and its dump is accepted as the same value:
  whatever form a number or a log level had, it is normal after one validation.

  What is proved:
    1. `Model.issue_of_part` — what is wrong with a model at any depth is wrong
       with the whole.
    2. `Model.issue_of_flaw` — every flaw is reported at its path.
    3. `Model.issue_of_stray` — a record where no model is declared is refused.
    4. `Model.normalises` — acceptance, dumps and refusals of all models.
-/

namespace RackElevation

open Data Text

namespace Data

/-- The value of an element of a list. -/
def Value.item? (n : Nat) : Value → Option Value
  | .list items => items[n]?
  | _ => none

/-- The value at the end of a path. -/
def Value.at? : List Step → Value → Option Value
  | [], v => some v
  | .field name :: path, v => (v.field? name).bind (at? path)
  | .index n :: path, v => (v.item? n).bind (at? path)

namespace Model

/-- The model that is declared at the end of a path. -/
def expected? : List Step → Model → Option Model
  | [], m => some m
  | .field name :: .index _ :: path, m =>
    match m.kind? name with
    | some (.parts p) => expected? path p
    | _ => none
  | _, _ => none

/-- Something that is not as declared, with the path at which it is reported. -/
inductive Flaw (m : Model) (v : Value) : List Step → Problem → Prop
  /-- A model has a field that is not declared. -/
  | unknown {path : List Step} {p : Model} {fields : List (Value × Value)} {k : String} {x : Value}
      (hp : m.expected? path = some p) (hw : v.at? path = some (.record fields))
      (hk : (.text k, x) ∈ fields) (hkind : p.kind? k = none) : Flaw m v (path ++ [.field k]) .extra
  /-- A device has no type. -/
  | untyped {path : List Step} {fields : List (Value × Value)}
      (hp : m.expected? path = some .device) (hw : v.at? path = some (.record fields))
      (hx : Value.field? "type" (.record fields) = none) :
      Flaw m v (path ++ [.field "type"]) .missing
  /-- A number is below one. -/
  | low {path : List Step} {p : Model} {w x : Value} {name : String} {problem : Problem} {n : Int}
      (hp : m.expected? path = some p) (hw : v.at? path = some w)
      (hkind : p.kind? name = some (.number problem)) (hx : w.field? name = some x)
      (hn : checkInt x = .accepted n) (hlow : n < 1) : Flaw m v (path ++ [.field name]) problem
  /-- What stands in the place of a model is no record. -/
  | shapeless {path : List Step} {p : Model} {w : Value} (hp : m.expected? path = some p)
      (hw : v.at? path = some w) (hshape : ∀ fields, w ≠ .record fields) :
      Flaw m v path (.notRecord p.title)

variable {m p : Model} {v w x : Value} {i : Issue}

/-! ## Issues of the parts of data -/

theorem issue_of_field {name : String} {kind : Kind} (hkind : m.kind? name = some kind)
    (hx : v.field? name = some x) (hi : kind.Finds x i) :
    i.below [.field name] ∈ (m.check v).issues := by
  obtain ⟨before, after, hfields, _⟩ := List.lookup_eq_some_iff.1 hkind
  have hmem : (name, kind) ∈ m.fields := by
    rw [hfields]
    exact List.mem_append_right _ List.mem_cons_self
  exact m.reports name kind v x i hmem hx hi

/-- Every model is checked as a record of its declared fields, and maybe further. -/
theorem checked_as_record (m : Model) : ∃ (α : Type) (record : Value → Checked α),
    ∀ v i, i ∈ (recordOf m.title (m.fields.map Prod.fst) record v).issues →
      i ∈ (m.check v).issues := by
  cases m with
  | device | rack | rackSet => exact ⟨_, _, fun _ _ h => h⟩
  | settings => exact ⟨_, _, fun _ _ h => mem_issues_andThen (mem_issues_andThen h)⟩

theorem issue_of_unknown {fields : List (Value × Value)} {k : String} (hk : (.text k, x) ∈ fields)
    (hkind : m.kind? k = none) : ⟨[.field k], .extra⟩ ∈ (m.check (.record fields)).issues := by
  have hnames : k ∉ m.fields.map Prod.fst := by
    intro hmem
    obtain ⟨f, hf, rfl⟩ := List.mem_map.1 hmem
    simpa using List.lookup_eq_none_iff.1 hkind f hf
  obtain ⟨α, record, hrecord⟩ := m.checked_as_record
  apply hrecord
  rw [issues_recordOf]
  exact List.mem_append_right _ (mem_extraIssues hk hnames)

theorem issue_of_shapeless (h : ∀ fields, v ≠ .record fields) :
    ⟨[], .notRecord m.title⟩ ∈ (m.check v).issues := by
  obtain ⟨α, record, hrecord⟩ := m.checked_as_record
  apply hrecord
  rw [issues_recordOf_of_ne h]
  exact List.mem_singleton_self _

theorem issue_of_untyped {fields : List (Value × Value)}
    (hx : Value.field? "type" (.record fields) = none) :
    ⟨[.field "type"], .missing⟩ ∈ (Device.check (.record fields)).issues := by
  have htype : (required "type" checkText (.record fields)).issues =
      [⟨[.field "type"], .missing⟩] := by
    rw [required, hx]
    rfl
  simp [Device.check, issues_recordOf, issues_seq, issues_map, htype]

theorem item_eq_some {n : Nat} (h : v.item? n = some w) :
    ∃ items, v = .list items ∧ items[n]? = some w := by
  cases v with
  | list items => exact ⟨items, rfl, h⟩
  | _ => cases h

/-- A value in which a record is found, but not as an element, is a record itself. -/
theorem eq_record_of_at? {path : List Step} {fields : List (Value × Value)}
    (hw : x.at? path = some (.record fields)) (hindex : ∀ n rest, path ≠ .index n :: rest) :
    ∃ inner, x = .record inner := by
  match path with
  | [] => exact ⟨fields, Option.some.inj hw⟩
  | .index n :: rest => exact absurd rfl (hindex n rest)
  | .field k :: rest =>
    obtain ⟨y, hy, _⟩ := Option.bind_eq_some_iff.1 hw
    obtain ⟨inner, rfl, _⟩ := mem_of_field? hy
    exact ⟨inner, rfl⟩

/-- What is wrong with an element of a list of models is wrong with the whole. -/
theorem issue_of_item {name : String} {n : Nat} (hkind : m.kind? name = some (.parts p))
    (hx : v.field? name = some x) (hw : x.item? n = some w) (hi : i ∈ (p.check w).issues) :
    i.below [.field name, .index n] ∈ (m.check v).issues := by
  obtain ⟨items, rfl, hitem⟩ := item_eq_some hw
  have hfield := issue_of_field hkind hx (.part (mem_issues_listOf hitem hi))
  rwa [Issue.below_below] at hfield

/-- What is wrong with a model at the end of a path is wrong with the whole. -/
theorem issue_of_part {path : List Step} (hp : m.expected? path = some p)
    (hw : v.at? path = some w) (hi : i ∈ (p.check w).issues) :
    i.below path ∈ (m.check v).issues := by
  -- along the path, a field and an element of its list at a time
  fun_induction expected? path m generalizing v with
  | case1 m =>
    cases hp
    cases hw
    exact hi
  | case2 m name n path q hkind ih =>
    obtain ⟨x, hx, hw⟩ := Option.bind_eq_some_iff.1 hw
    obtain ⟨y, hy, hw⟩ := Option.bind_eq_some_iff.1 hw
    have hitem := issue_of_item hkind hx hy (ih hp hw)
    rwa [Issue.below_below] at hitem
  | case3 => cases hp
  | case4 => cases hp

theorem issue_of_flaw {path : List Step} {problem : Problem} (h : m.Flaw v path problem) :
    ⟨path, problem⟩ ∈ (m.check v).issues := by
  cases h with
  | unknown hp hw hk hkind => exact issue_of_part hp hw (issue_of_unknown hk hkind)
  | untyped hp hw hx => exact issue_of_part hp hw (issue_of_untyped hx)
  | low hp hw hkind hx hn hlow =>
    exact issue_of_part hp hw (issue_of_field hkind hx (.low hn hlow))
  | shapeless hp hw hshape =>
    have hpart := issue_of_part hp hw (issue_of_shapeless hshape)
    rwa [Issue.below, List.append_nil] at hpart

/-! ## Records where no model is declared -/

/-- A field with a value that its kind does not have, a list or a record. -/
theorem issue_of_misplaced {name : String} (hx : v.field? name = some x) (hleaf : x.isLeaf = false)
    (hkind : ∀ q, m.kind? name = some (.parts q) → ∀ items, x ≠ .list items) :
    ∃ problem, ⟨[.field name], problem⟩ ∈ (m.check v).issues := by
  cases hname : m.kind? name with
  | none =>
    obtain ⟨fields, rfl, hmem⟩ := mem_of_field? hx
    exact ⟨_, issue_of_unknown hmem hname⟩
  | some kind =>
    cases kind with
    | text => exact ⟨_, issue_of_field hname hx (.notText hleaf)⟩
    | number => exact ⟨_, issue_of_field hname hx (.notInteger hleaf)⟩
    | parts q =>
      have hlist : ⟨[], .notList⟩ ∈ (listOf q.check x).issues := by
        cases x with
        | list items => exact absurd rfl (hkind q hname items)
        | record => exact List.mem_singleton_self _
        | _ => cases hleaf
      exact ⟨_, issue_of_field hname hx (.part hlist)⟩

/-- A record at a path where no model is declared is refused on the way to it. -/
theorem issue_of_stray {path : List Step} {fields : List (Value × Value)}
    (hp : m.expected? path = none) (hw : v.at? path = some (.record fields)) :
    ∃ i ∈ (m.check v).issues, i.path <+: path := by
  fun_induction expected? path m generalizing v with
  | case1 m => cases hp
  | case2 m name n path q hkind ih =>
    obtain ⟨x, hx, hw⟩ := Option.bind_eq_some_iff.1 hw
    obtain ⟨y, hy, hw⟩ := Option.bind_eq_some_iff.1 hw
    obtain ⟨i, hi, hpath⟩ := ih hp hw
    exact ⟨_, issue_of_item hkind hx hy hi, List.prefix_append_right_inj _ |>.2 hpath⟩
  | case3 name n path m hkind =>
    obtain ⟨x, hx, hw⟩ := Option.bind_eq_some_iff.1 hw
    obtain ⟨y, hy, _⟩ := Option.bind_eq_some_iff.1 hw
    obtain ⟨items, rfl, _⟩ := item_eq_some hy
    obtain ⟨problem, hi⟩ := issue_of_misplaced (m := m) hx rfl fun q hq => absurd hq (hkind q)
    exact ⟨_, hi, [.index n] ++ path, rfl⟩
  | case4 path m hnil hitem =>
    -- the path ends at a field, or goes on as it does in no model
    match path with
    | [] => exact absurd rfl hnil
    | .index n :: rest =>
      obtain ⟨x, hx, _⟩ := Option.bind_eq_some_iff.1 hw
      obtain ⟨items, rfl, _⟩ := item_eq_some hx
      exact ⟨_, issue_of_shapeless nofun, List.nil_prefix⟩
    | .field name :: rest =>
      obtain ⟨x, hx, hw⟩ := Option.bind_eq_some_iff.1 hw
      obtain ⟨inner, rfl⟩ := eq_record_of_at? hw fun n after h => hitem name n after (h ▸ rfl)
      obtain ⟨problem, hi⟩ := issue_of_misplaced (m := m) hx rfl fun _ _ => nofun
      exact ⟨_, hi, rest, rfl⟩

end Model

end Data

/-! ## Reading settings back -/

theorem Data.above_int {bound n : Int} (h : bound < n) : above bound (.int n) = .accepted n := by
  rw [above, andThen_eq_accepted]
  exact ⟨n, rfl, if_pos h⟩

theorem Data.orNull_codes (s : Option String) :
    orNull checkCodes (.ofText? s) = .accepted (s.map CodePoint.ofString) := by
  cases s <;> rfl

theorem Level.upper_name (l : Level) :
    CodePoint.upper (CodePoint.ofString l.name) = CodePoint.ofString l.name := by
  cases l <;> decide

theorem Level.name_mem (l : Level) : l.name ∈ ["DEBUG", "INFO", "WARNING", "ERROR"] := by
  cases l <;> decide

/-- What has been chosen is chosen again. -/
theorem Settings.choose_of_mem {s : Settings} (h : s.dialect ∈ Dialect.names) :
    choose ⟨s.linkBase.map CodePoint.ofString, s.maxContentLength, s.maxRackHeight,
      CodePoint.ofString s.dialect, CodePoint.ofString s.logLevel.name⟩ =
      .accepted (s.withBase (s.linkBase.map CodePoint.ofString)) := by
  have hdialect : (some s.dialect).filter Dialect.names.contains = some s.dialect :=
    Option.filter_some_pos (List.contains_iff_mem.2 h)
  simp only [choose, Level.upper_name, CodePoint.string?_ofString, hdialect, Option.bind_some,
    Level.ofName?_name]
  rfl

/-- A base that is a text is taken over. -/
theorem Settings.checkBase_withBase (s : Settings) :
    Loaded.checkBase (s.withBase (s.linkBase.map CodePoint.ofString)) = .accepted s := by
  obtain ⟨base, content, height, dialect, level⟩ := s
  cases base with
  | none => rfl
  | some text =>
    simp only [Loaded.checkBase, SettingsOver.withBase, Option.map_some, CodePoint.string?_ofString]

theorem Settings.check_toValue {s : Settings} (h : s.Valid) : check s.toValue = .accepted s := by
  have hbase : withDefault "internal_link_base" none (orNull checkCodes) s.toValue =
      .accepted (s.linkBase.map CodePoint.ofString) :=
    withDefault_of_field rfl (orNull_codes s.linkBase)
  have hcontent : withDefault "max_content_length" 1048576 (above 0) s.toValue =
      .accepted s.maxContentLength := withDefault_of_field rfl (above_int h.content)
  have hheight : withDefault "max_rack_height" 200 (above 0) s.toValue =
      .accepted s.maxRackHeight := withDefault_of_field rfl (above_int h.height)
  have hdialect : withDefault "default_dialect" (CodePoint.ofString "rack-text") checkCodes
      s.toValue = .accepted (CodePoint.ofString s.dialect) := withDefault_of_field rfl rfl
  have hlevel : withDefault "log_level" (CodePoint.ofString "INFO") checkCodes s.toValue =
      .accepted (CodePoint.ofString s.logLevel.name) := withDefault_of_field rfl rfl
  refine andThen_eq_accepted.2 ⟨_, andThen_eq_accepted.2
    ⟨_, recordOf_eq_accepted.2 ⟨_, rfl, rfl, ?_⟩, choose_of_mem h.dialect⟩, checkBase_withBase s⟩
  rw [hbase, hcontent, hheight, hdialect, hlevel]
  rfl

/-! ## Models -/

namespace Data.Model

theorem valid_of_check {m : Model} {v : Value} {a : m.Accepted} (h : m.check v = .accepted a) :
    m.Valid a := by
  cases m with
  | device => exact Device.valid_of_check h
  | rack => exact Rack.valid_of_check h
  | rackSet => exact RackSet.valid_of_check h
  | settings => exact ⟨Settings.valid_of_check h, a.logLevel.name_mem⟩

theorem check_toValue {m : Model} {a : m.Accepted} (h : m.Valid a) :
    m.check (m.toValue a) = .accepted a := by
  cases m with
  | device => exact Device.check_toValue h
  | rack => exact Rack.check_toValue h
  | rackSet => exact RackSet.check_toValue h
  | settings => exact Settings.check_toValue h.1

/-- What a model accepts keeps the declared bounds, and its dump is accepted as the same value. A
value that is not as declared, at any depth, is refused with an issue at the path of the flaw, and
so is a record where no model is declared, with an issue on the way to it. -/
theorem normalises (m : Model) (v : Value) :
    (∀ a, m.check v = .accepted a → m.Valid a ∧ m.check (m.toValue a) = .accepted a) ∧
    (∀ path problem, m.Flaw v path problem →
      ∃ issues, m.check v = .refused issues ∧ ⟨path, problem⟩ ∈ issues) ∧
    ∀ path fields, m.expected? path = none → v.at? path = some (.record fields) →
      ∃ issues, m.check v = .refused issues ∧ ∃ i ∈ issues, i.path <+: path := by
  refine ⟨fun a ha => ?_, fun _ _ hflaw => refused_of_mem (issue_of_flaw hflaw), ?_⟩
  · have hvalid := valid_of_check ha
    exact ⟨hvalid, check_toValue hvalid⟩
  · intro path fields hp hw
    obtain ⟨i, hi, hpath⟩ := issue_of_stray hp hw
    obtain ⟨issues, hissues, hmem⟩ := refused_of_mem hi
    exact ⟨issues, hissues, i, hmem, hpath⟩

/-- A set of racks with its numbers given in other forms. -/
def loose : Value :=
  .record [(.text "racks", .list [.record [(.text "height", .text " +07.0 "),
    (.text "devices", .list [.record [(.text "type", .text "server"), (.text "height", .bool true),
      (.text "position", .text "1_0")]])]])]

/-- The set of racks as it is accepted. -/
def tight : RackSet :=
  { racks := [{ height := 7, devices := [{ kind := "server", position := some 10 }] }] }

/-- The path to the second device of the second rack. -/
def spot : List Step := [.field "racks", .index 1, .field "devices", .index 1]

/-- A set of racks in which that device is too low and has a field of its own. -/
def flawed : Value :=
  .record [(.text "racks", .list [.record [], .record [(.text "devices",
    .list [.record [(.text "type", .text "ups")], .record [(.text "type", .text "ups"),
      (.text "height", .text "0"), (.text "zone", .record [])]])]])]

/-- Settings with a level whose first letter is a capital I only in upper case. -/
def dotless : Value :=
  .record [(.text "log_level", .text "ınfo"), (.text "max_rack_height", .text "60")]

theorem normalises_loose :
    rackSet.check loose = .accepted tight ∧ tight.Valid ∧
    rackSet.check tight.toValue = .accepted tight ∧
    settings.check dotless = .accepted { maxRackHeight := 60 } ∧
    settings.check (Settings.toValue { maxRackHeight := 60 }) = .accepted { maxRackHeight := 60 } ∧
    (∃ issues, rackSet.check flawed = .refused issues ∧
      ⟨spot ++ [.field "height"], .tooLow 1⟩ ∈ issues) ∧
    (∃ issues, rackSet.check flawed = .refused issues ∧
      ⟨spot ++ [.field "zone"], .extra⟩ ∈ issues) := by
  have hloose : rackSet.check loose = .accepted tight := rfl
  have hdotless : settings.check dotless = .accepted { maxRackHeight := 60 } := rfl
  obtain ⟨haccepted, _, _⟩ := normalises rackSet loose
  obtain ⟨hsettings, _, _⟩ := normalises settings dotless
  obtain ⟨_, hflaw, _⟩ := normalises rackSet flawed
  obtain ⟨hvalid, hdump⟩ := haccepted tight hloose
  have hlow : rackSet.Flaw flawed (spot ++ [.field "height"]) (.tooLow 1) :=
    .low (p := .device) (n := 0) rfl rfl rfl rfl rfl (by decide)
  have hunknown : rackSet.Flaw flawed (spot ++ [.field "zone"]) .extra :=
    .unknown (p := .device) (x := .record []) rfl rfl (by simp) rfl
  exact ⟨hloose, hvalid, hdump, hdotless, (hsettings _ hdotless).2, hflaw _ _ hlow,
    hflaw _ _ hunknown⟩

end Data.Model

end RackElevation
