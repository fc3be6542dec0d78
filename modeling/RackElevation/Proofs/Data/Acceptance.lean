import Mathlib.Data.List.Forall2
import RackElevation.Data.Dump
import RackElevation.Data.Schema

/-
  What checked data keeps

  A check of a record accepts it with the values that the checks of its fields
  accept, so a bound that each field keeps holds of every record that is
  accepted. What is dumped holds each field under its name in the form the check
  asks for, so a value that keeps its bounds is accepted as it was.

  What is proved:
    1. `seq_eq_accepted`, `recordOf_eq_accepted`, `each_eq_accepted` — what the
       parts of an accepted value are.
    2. `RackSet.valid_of_check` — a rack set from data keeps all bounds.
    3. `RackSet.check_toValue` — a rack set that keeps them is read back from its
       dump.
-/

namespace RackElevation

open Data

namespace Data

variable {α β : Type}

/-! ## Accepted values and their parts -/

theorem seq_eq_accepted {f : Checked (α → β)} {x : Checked α} {b : β} :
    (f <*> x) = .accepted b ↔ ∃ g a, f = .accepted g ∧ x = .accepted a ∧ g a = b := by
  show Checked.seq f (fun _ => x) = _ ↔ _
  cases f <;> cases x <;> simp [Checked.seq]

theorem map_eq_accepted {g : α → β} {x : Checked α} {b : β} :
    (g <$> x) = .accepted b ↔ ∃ a, x = .accepted a ∧ g a = b := by
  show ((.accepted g : Checked (α → β)) <*> x) = _ ↔ _
  rw [seq_eq_accepted]
  constructor
  · intro h
    obtain ⟨_, a, hg, hx, hb⟩ := h
    cases hg
    exact ⟨a, hx, hb⟩
  · intro h
    obtain ⟨a, hx, hb⟩ := h
    exact ⟨g, a, rfl, hx, hb⟩

theorem under_eq_accepted {step : Step} {x : Checked α} {a : α} :
    x.under step = .accepted a ↔ x = .accepted a := by
  cases x <;> simp [Checked.under]

theorem andThen_eq_accepted {x : Checked α} {f : α → Checked β} {b : β} :
    x.andThen f = .accepted b ↔ ∃ a, x = .accepted a ∧ f a = .accepted b := by
  cases x <;> simp [Checked.andThen]

theorem recordOf_eq_accepted {model : String} {names : List String} {check : Value → Checked α}
    {v : Value} {a : α} : recordOf model names check v = .accepted a ↔
      ∃ fields, v = .record fields ∧ extraIssues names fields = [] ∧ check v = .accepted a := by
  cases v with
  | record fields =>
    simp only [recordOf, Value.record.injEq, exists_eq_left']
    cases check (.record fields) <;> cases extraIssues names fields <;> simp
  | _ => simp [recordOf, Checked.fail]

theorem each_eq_accepted {check : Value → Checked α} {n : Nat} {l : List Value} {r : List α} :
    Checked.each check n l = .accepted r ↔ List.Forall₂ (fun v a => check v = .accepted a) l r := by
  induction l generalizing n r with
  | nil => simp [Checked.each, eq_comm]
  | cons v l ih =>
    rw [Checked.each, seq_eq_accepted, List.forall₂_cons_left_iff]
    constructor
    · intro h
      obtain ⟨_, rest, hcons, hrest, rfl⟩ := h
      obtain ⟨a, ha, rfl⟩ := map_eq_accepted.1 hcons
      exact ⟨a, rest, under_eq_accepted.1 ha, ih.1 hrest, rfl⟩
    · intro h
      obtain ⟨a, rest, ha, hrest, rfl⟩ := h
      exact ⟨_, rest, map_eq_accepted.2 ⟨a, under_eq_accepted.2 ha, rfl⟩, ih.2 hrest, rfl⟩

/-! ## What every accepted value has -/

/-- Every value that a check accepts has a property. -/
def Ensures (check : Value → Checked α) (P : α → Prop) : Prop := ∀ v a, check v = .accepted a → P a

namespace Ensures

variable {check : Value → Checked α} {P : α → Prop}

theorem withDefault {name : String} {default : α} (hcheck : Ensures check P)
    (hdefault : P default) : Ensures (Data.withDefault name default check) P := by
  intro v a h
  unfold Data.withDefault at h
  split at h
  · exact hcheck _ a (under_eq_accepted.1 h)
  · cases h
    exact hdefault

theorem orNull (hcheck : Ensures check P) : Ensures (Data.orNull check) fun o => ∀ a ∈ o, P a := by
  intro v o h
  unfold Data.orNull at h
  split at h
  · cases h
    exact fun a ha => nomatch ha
  · obtain ⟨a, ha, rfl⟩ := map_eq_accepted.1 h
    intro b hb
    cases hb
    exact hcheck _ a ha

theorem listOf (hcheck : Ensures check P) : Ensures (Data.listOf check) fun l => ∀ a ∈ l, P a := by
  intro v l h
  cases v with
  | list items =>
    have hpairs := each_eq_accepted.1 h
    clear h
    induction hpairs with
    | nil => exact fun a ha => nomatch ha
    | cons ha _ ih => exact List.forall_mem_cons.2 ⟨hcheck _ _ ha, ih⟩
  | _ => cases h

end Ensures

theorem ensures_atLeast (least : Int) : Ensures (atLeast least) (least ≤ ·) :=
  fun _ _ h => atLeast_bound h

/-! ## Fields of a record that holds them -/

theorem required_of_field {name : String} {check : Value → Checked α} {v x : Value} {a : α}
    (hfield : v.field? name = some x) (h : check x = .accepted a) :
    required name check v = .accepted a := by
  rw [required, hfield]
  exact under_eq_accepted.2 h

theorem withDefault_of_field {name : String} {default : α} {check : Value → Checked α} {v x : Value}
    {a : α} (hfield : v.field? name = some x) (h : check x = .accepted a) :
    withDefault name default check v = .accepted a := by
  rw [withDefault, hfield]
  exact under_eq_accepted.2 h

theorem atLeast_int {least n : Int} (h : least ≤ n) : atLeast least (.int n) = .accepted n := by
  rw [atLeast, andThen_eq_accepted]
  exact ⟨n, rfl, if_pos h⟩

theorem orNull_ofText? (s : Option String) : orNull checkText (.ofText? s) = .accepted s := by
  cases s <;> rfl

theorem orNull_ofInt? {least : Int} {p : Option Int} (h : ∀ n ∈ p, least ≤ n) :
    orNull (atLeast least) (.ofInt? p) = .accepted p := by
  cases p with
  | none => rfl
  | some n => exact map_eq_accepted.2 ⟨n, atLeast_int (h n rfl), rfl⟩

theorem listOf_map {check : Value → Checked α} {dump : α → Value} {l : List α}
    (h : ∀ a ∈ l, check (dump a) = .accepted a) :
    listOf check (.list (l.map dump)) = .accepted l := by
  show Checked.each check 0 (l.map dump) = _
  rw [each_eq_accepted, List.forall₂_map_left_iff, List.forall₂_same]
  exact h

end Data

/-! ## Bounds of what is accepted -/

theorem Device.valid_of_check {v : Value} {d : Device} (h : Device.check v = .accepted d) :
    d.Valid := by
  obtain ⟨_, _, _, hfields⟩ := recordOf_eq_accepted.1 h
  -- the checks of the fields, from the last one back to the height
  obtain ⟨_, category, hcategory, _, rfl⟩ := seq_eq_accepted.1 hfields
  obtain ⟨_, position, hto, hposition, rfl⟩ := seq_eq_accepted.1 hcategory
  obtain ⟨_, color, hcolor, _, rfl⟩ := seq_eq_accepted.1 hto
  obtain ⟨_, href, hhref, _, rfl⟩ := seq_eq_accepted.1 hcolor
  obtain ⟨_, height, hname, hheight, rfl⟩ := seq_eq_accepted.1 hhref
  obtain ⟨_, name, hkind, _, rfl⟩ := seq_eq_accepted.1 hname
  obtain ⟨kind, _, rfl⟩ := map_eq_accepted.1 hkind
  refine ⟨(ensures_atLeast 1).withDefault (Int.le_refl 1) v height hheight, ?_⟩
  exact (ensures_atLeast 1).orNull.withDefault (by simp) v position hposition

theorem Rack.valid_of_check {v : Value} {r : Rack} (h : Rack.check v = .accepted r) : r.Valid := by
  obtain ⟨_, _, _, hfields⟩ := recordOf_eq_accepted.1 h
  obtain ⟨_, devices, hrest, hdevices, rfl⟩ := seq_eq_accepted.1 hfields
  obtain ⟨_, height, hname, hheight, rfl⟩ := seq_eq_accepted.1 hrest
  obtain ⟨name, _, rfl⟩ := map_eq_accepted.1 hname
  have hdevice : Ensures Device.check Device.Valid := fun _ _ => Device.valid_of_check
  refine ⟨(ensures_atLeast 1).withDefault Rack.valid_default.1 v height hheight, ?_⟩
  exact hdevice.listOf.withDefault (by simp) v devices hdevices

theorem RackSet.valid_of_check {v : Value} {s : RackSet} (h : RackSet.check v = .accepted s) :
    s.Valid := by
  obtain ⟨_, _, _, hfields⟩ := recordOf_eq_accepted.1 h
  obtain ⟨_, racks, hrest, hracks, rfl⟩ := seq_eq_accepted.1 hfields
  obtain ⟨_, id, hbase, _, rfl⟩ := seq_eq_accepted.1 hrest
  obtain ⟨base, _, rfl⟩ := map_eq_accepted.1 hbase
  have hrack : Ensures Rack.check Rack.Valid := fun _ _ => Rack.valid_of_check
  exact hrack.listOf.withDefault (by simp) v racks hracks

/-! ## Reading a dump back -/

theorem Device.check_toValue {d : Device} (h : d.Valid) : Device.check d.toValue = .accepted d := by
  have hkind : required "type" checkText d.toValue = .accepted d.kind := required_of_field rfl rfl
  have hname : withDefault "name" "" checkText d.toValue = .accepted d.name :=
    withDefault_of_field rfl rfl
  have hheight : withDefault "height" 1 (atLeast 1) d.toValue = .accepted d.height :=
    withDefault_of_field rfl (atLeast_int h.1)
  have hhref : withDefault "href" none (orNull checkText) d.toValue = .accepted d.href :=
    withDefault_of_field rfl (orNull_ofText? d.href)
  have hcolor : withDefault "color" none (orNull checkText) d.toValue = .accepted d.color :=
    withDefault_of_field rfl (orNull_ofText? d.color)
  have hposition :
      withDefault "position" none (orNull (atLeast 1)) d.toValue = .accepted d.position :=
    withDefault_of_field rfl (orNull_ofInt? h.2)
  have hcategory :
      withDefault "category" none (orNull checkText) d.toValue = .accepted d.category :=
    withDefault_of_field rfl (orNull_ofText? d.category)
  refine recordOf_eq_accepted.2 ⟨_, rfl, rfl, ?_⟩
  rw [hkind, hname, hheight, hhref, hcolor, hposition, hcategory]
  rfl

theorem Rack.check_toValue {r : Rack} (h : r.Valid) : Rack.check r.toValue = .accepted r := by
  have hname : withDefault "name" "" checkText r.toValue = .accepted r.name :=
    withDefault_of_field rfl rfl
  have hheight :
      withDefault "height" defaultRackHeight (atLeast 1) r.toValue = .accepted r.height :=
    withDefault_of_field rfl (atLeast_int h.1)
  have hdevices : withDefault "devices" [] (listOf Device.check) r.toValue = .accepted r.devices :=
    withDefault_of_field rfl (listOf_map fun d hd => Device.check_toValue (h.2 d hd))
  refine recordOf_eq_accepted.2 ⟨_, rfl, rfl, ?_⟩
  rw [hname, hheight, hdevices]
  rfl

theorem RackSet.check_toValue {s : RackSet} (h : s.Valid) :
    RackSet.check s.toValue = .accepted s := by
  have hbase : withDefault "base" none (orNull checkText) s.toValue = .accepted s.base :=
    withDefault_of_field rfl (orNull_ofText? s.base)
  have hid : withDefault "id" none (orNull checkText) s.toValue = .accepted s.id :=
    withDefault_of_field rfl (orNull_ofText? s.id)
  have hracks : withDefault "racks" [] (listOf Rack.check) s.toValue = .accepted s.racks :=
    withDefault_of_field rfl (listOf_map fun r hr => Rack.check_toValue (h r hr))
  refine recordOf_eq_accepted.2 ⟨_, rfl, rfl, ?_⟩
  rw [hbase, hid, hracks]
  rfl

end RackElevation
