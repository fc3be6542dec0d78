import RackElevation.Proofs.Data.Issues
import RackElevation.Proofs.Settings

/-
  Models

  What data is checked against: devices, racks, sets of racks and settings. Each
  has declared fields, which hold texts, numbers from one on, or a list of
  further models. What the check of a field finds is reported below the name of
  the field, and this goes through each combination of checks, so it holds of
  whole models by the way their checks are put together.

  What is proved:
    1. `Covers.orNull`, `covers_number`, … — the checks of fields find what their
       kinds ask for.
    2. `Reports.seq` — what is reported goes through a combination of checks.
    3. `Model.reports` — each model reports what its declared fields find.
-/

namespace RackElevation

open Data

namespace Data

/-- What untyped data is checked against. -/
inductive Model
  | device
  | rack
  | rackSet
  | settings
  deriving DecidableEq, Repr

/-- What a field holds: a text, a number from one on, or a list of models. For a number, the problem
that a lower one is. -/
inductive Kind
  | text
  | number (low : Problem)
  | parts (m : Model)
  deriving DecidableEq, Repr

namespace Model

/-- The values that are accepted. -/
abbrev Accepted : Model → Type
  | .device => Device
  | .rack => Rack
  | .rackSet => RackSet
  | .settings => Settings

/-- The check of a model. -/
def check : (m : Model) → Value → Checked m.Accepted
  | .device => Device.check
  | .rack => Rack.check
  | .rackSet => RackSet.check
  | .settings => Settings.check

/-- What is dumped of a value. -/
def toValue : (m : Model) → m.Accepted → Value
  | .device => Device.toValue
  | .rack => Rack.toValue
  | .rackSet => RackSet.toValue
  | .settings => Settings.toValue

/-- The declared bounds, at every depth. -/
def Valid : (m : Model) → m.Accepted → Prop
  | .device => Device.Valid
  | .rack => Rack.Valid
  | .rackSet => RackSet.Valid
  | .settings => fun s => s.Valid ∧ s.logLevel.name ∈ ["DEBUG", "INFO", "WARNING", "ERROR"]

/-- The name of a model in messages. -/
def title : Model → String
  | .device => "RackDevice"
  | .rack => "Rack"
  | .rackSet => "RackSet"
  | .settings => "Settings"

/-- The declared fields of a model. -/
def fields : Model → List (String × Kind)
  | .device => [("type", .text), ("name", .text), ("height", .number (.tooLow 1)), ("href", .text),
      ("color", .text), ("position", .number (.tooLow 1)), ("category", .text)]
  | .rack => [("name", .text), ("height", .number (.tooLow 1)), ("devices", .parts .device)]
  | .rackSet => [("base", .text), ("id", .text), ("racks", .parts .rack)]
  | .settings => [("internal_link_base", .text), ("max_content_length", .number (.notAbove 0)),
      ("max_rack_height", .number (.notAbove 0)), ("default_dialect", .text), ("log_level", .text)]

/-- What the field with a name holds. -/
def kind? (m : Model) (name : String) : Option Kind := m.fields.lookup name

end Model

/-! ## Fields -/

/-- Whether a value is neither a list nor a record. -/
def Value.isLeaf : Value → Bool
  | .list _ => false
  | .record _ => false
  | _ => true

/-- Issues that a field of a kind has with a value, whatever else there is to its check. -/
inductive Kind.Finds : Kind → Value → Issue → Prop
  | notText {x : Value} (hx : x.isLeaf = false) : Finds .text x ⟨[], .notText⟩
  | notInteger {low : Problem} {x : Value} (hx : x.isLeaf = false) :
      Finds (.number low) x ⟨[], .notInteger⟩
  | low {low : Problem} {x : Value} {n : Int} (hx : checkInt x = .accepted n) (hn : n < 1) :
      Finds (.number low) x ⟨[], low⟩
  | part {p : Model} {x : Value} {i : Issue} (hi : i ∈ (listOf p.check x).issues) :
      Finds (.parts p) x i

/-- A check that reports what its kind of field finds. -/
def Covers {α : Type} (kind : Kind) (check : Value → Checked α) : Prop :=
  ∀ x i, kind.Finds x i → i ∈ (check x).issues

section Covers

variable {α : Type} {kind : Kind} {check : Value → Checked α}

theorem covers_text : Covers .text checkText := by
  intro x i h
  cases h with
  | notText hx =>
    cases x with
    | list | record => exact List.mem_singleton_self _
    | _ => cases hx

theorem covers_codes : Covers .text checkCodes := by
  intro x i h
  cases h with
  | notText hx =>
    cases x with
    | list | record => exact List.mem_singleton_self _
    | _ => cases hx

/-- A bound that refuses the numbers below one. -/
theorem covers_number {low : Problem} {bound : Int → Checked Int}
    (hbound : ∀ n < 1, bound n = .fail low) :
    Covers (.number low) fun v => (checkInt v).andThen bound := by
  intro x i h
  cases h with
  | notInteger hx =>
    cases x with
    | list | record => exact List.mem_singleton_self _
    | _ => cases hx
  | low hx hn =>
    show _ ∈ ((checkInt x).andThen bound).issues
    rw [hx, Checked.andThen, hbound _ hn]
    exact List.mem_singleton_self _

theorem covers_atLeast : Covers (.number (.tooLow 1)) (atLeast 1) :=
  covers_number fun _ hn => if_neg (Int.not_le.2 hn)

theorem covers_above : Covers (.number (.notAbove 0)) (above 0) :=
  covers_number fun _ hn => if_neg (Int.not_lt.2 (Int.lt_add_one_iff.1 hn))

theorem covers_parts (p : Model) : Covers (.parts p) (listOf p.check) := by
  intro x i h
  cases h with
  | part hi => exact hi

/-- Null has no issues of its own as a text or a number. -/
theorem Covers.orNull (h : Covers kind check) (hkind : ∀ p, kind ≠ .parts p) :
    Covers kind (orNull check) := by
  intro x i hi
  unfold Data.orNull
  split
  · cases hi with
    | notText hx | notInteger hx | low hx => cases hx
    | part => exact absurd rfl (hkind _)
  · rw [issues_map]
    exact h x i hi

end Covers

/-- A check that reports what its fields find, each below its name. -/
def Reports {α : Type} (check : Value → Checked α) (fields : List (String × Kind)) : Prop :=
  ∀ name kind v x i, (name, kind) ∈ fields → v.field? name = some x → kind.Finds x i →
    i.below [.field name] ∈ (check v).issues

namespace Reports

variable {α β : Type} {kind : Kind} {check : Value → Checked α} {name model : String}
  {names : List String} {declared others : List (String × Kind)}

theorem required (h : Covers kind check) : Reports (Data.required name check) [(name, kind)] := by
  intro n k v x i hmem hx hi
  cases List.mem_singleton.1 hmem
  rw [issues_required hx]
  exact List.mem_map_of_mem (h x i hi)

theorem withDefault {default : α} (h : Covers kind check) :
    Reports (Data.withDefault name default check) [(name, kind)] := by
  intro n k v x i hmem hx hi
  cases List.mem_singleton.1 hmem
  rw [issues_withDefault hx]
  exact List.mem_map_of_mem (h x i hi)

theorem map (g : α → β) (h : Reports check declared) :
    Reports (fun v => g <$> check v) declared := by
  intro n k v x i hmem hx hi
  rw [issues_map]
  exact h n k v x i hmem hx hi

theorem seq {f : Value → Checked (α → β)} (hf : Reports f declared) (h : Reports check others) :
    Reports (fun v => f v <*> check v) (declared ++ others) := by
  intro n k v x i hmem hx hi
  rw [issues_seq, List.mem_append]
  exact (List.mem_append.1 hmem).imp (hf n k v x i · hx hi) (h n k v x i · hx hi)

theorem recordOf (h : Reports check declared) :
    Reports (Data.recordOf model names check) declared := by
  intro n k v x i hmem hx hi
  obtain ⟨fields, rfl, _⟩ := mem_of_field? hx
  rw [issues_recordOf, List.mem_append]
  exact .inl (h n k _ x i hmem hx hi)

theorem andThen (f : α → Checked β) (h : Reports check declared) :
    Reports (fun v => (check v).andThen f) declared :=
  fun n k v x i hmem hx hi => mem_issues_andThen (h n k v x i hmem hx hi)

end Reports

namespace Model

theorem reports : (m : Model) → Reports m.check m.fields
  | .device => (((((((Reports.required covers_text).map Device.mk).seq
      (.withDefault covers_text)).seq (.withDefault covers_atLeast)).seq
      (.withDefault (covers_text.orNull nofun))).seq
      (.withDefault (covers_text.orNull nofun))).seq
      (.withDefault (covers_atLeast.orNull nofun))).seq
      (.withDefault (covers_text.orNull nofun)) |>.recordOf
  | .rack => (((Reports.withDefault covers_text).map Rack.mk).seq (.withDefault covers_atLeast)).seq
      (.withDefault (covers_parts .device)) |>.recordOf
  | .rackSet => (((Reports.withDefault (covers_text.orNull nofun)).map RackSet.mk).seq
      (.withDefault (covers_text.orNull nofun))).seq (.withDefault (covers_parts .rack)) |>.recordOf
  | .settings => ((((((Reports.withDefault (covers_codes.orNull nofun)).map Settings.Draft.mk).seq
      (.withDefault covers_above)).seq (.withDefault covers_above)).seq
      (.withDefault covers_codes)).seq (.withDefault covers_codes)).recordOf.andThen Settings.choose
      |>.andThen Settings.Loaded.checkBase

end Model

end Data

end RackElevation
