import RackElevation.Link
import RackElevation.Proofs.Data.Acceptance
import RackElevation.Proofs.Outcome
import RackElevation.Settings

/-
  What settings keep

  Settings come from data that is checked, and hold limits above zero and the
  name of a dialect. What several places may give, a base for note links above
  all, is the first text among them that is there and not empty.

  What is proved:
    1. `Settings.valid_of_load` — settings that are loaded keep their bounds.
    2. `firstGiven_iff` — the first text that is given, as it is computed.
-/

namespace RackElevation

open Data Outcome

/-! ## Bounds -/

/-- The limits of settings leave something, and their dialect is one that there is. -/
structure SettingsOver.Valid {β : Type} (s : SettingsOver β) : Prop where
  content : 0 < s.maxContentLength
  height : 0 < s.maxRackHeight
  dialect : s.dialect ∈ Dialect.names

theorem SettingsOver.valid_default {β : Type} : ({} : SettingsOver β).Valid where
  content := Int.natCast_pos.2 (by decide : 0 < 1048576)
  height := Int.natCast_pos.2 (by decide : 0 < 200)
  dialect := (by decide : "rack-text" ∈ Dialect.names)

theorem ensures_above (bound : Int) : Ensures (above bound) (bound < ·) := by
  intro v n h
  obtain ⟨m, _, hm⟩ := andThen_eq_accepted.1 h
  split at hm
  · cases hm
    assumption
  · cases hm

namespace Settings

/-- Choosing a dialect and a level changes no limit. -/
theorem choose_limits {d : Draft} {s : Loaded} (h : choose d = .accepted s) :
    s.maxContentLength = d.maxContentLength ∧ s.maxRackHeight = d.maxRackHeight := by
  simp only [choose] at h
  split at h
  · cases h
  split at h
  · cases h
  · cases h
    exact ⟨rfl, rfl⟩

theorem valid_of_checkLoaded {v : Value} {s : Loaded} (h : checkLoaded v = .accepted s) :
    s.Valid := by
  obtain ⟨draft, hdraft, hchoose⟩ := andThen_eq_accepted.1 h
  obtain ⟨_, _, _, hfields⟩ := recordOf_eq_accepted.1 hdraft
  -- the checks of the fields, from the last one back to the limits
  obtain ⟨_, level, hdialect, _, rfl⟩ := seq_eq_accepted.1 hfields
  obtain ⟨_, dialect, hheight, _, rfl⟩ := seq_eq_accepted.1 hdialect
  obtain ⟨_, height, hcontent, hlimit, rfl⟩ := seq_eq_accepted.1 hheight
  obtain ⟨_, content, hbase, hlength, rfl⟩ := seq_eq_accepted.1 hcontent
  obtain ⟨base, _, rfl⟩ := map_eq_accepted.1 hbase
  obtain ⟨hcontents, hheights⟩ := choose_limits hchoose
  refine ⟨?_, ?_, choose_dialect hchoose⟩
  · rw [hcontents]
    exact (ensures_above 0).withDefault (by decide) v content hlength
  · rw [hheights]
    exact (ensures_above 0).withDefault (by decide) v height hlimit

/-- Only the base is checked any further. -/
theorem checkBase_eq_accepted {s : Loaded} {t : Settings} (h : s.checkBase = .accepted t) :
    ∃ base, t = s.withBase base := by
  unfold Loaded.checkBase at h
  split at h
  · cases h
    exact ⟨none, rfl⟩
  · split at h
    · next text _ =>
      cases h
      exact ⟨some text, rfl⟩
    · cases h

theorem valid_of_check {v : Value} {s : Settings} (h : check v = .accepted s) : s.Valid := by
  obtain ⟨loaded, hloaded, hbase⟩ := andThen_eq_accepted.1 h
  obtain ⟨base, rfl⟩ := checkBase_eq_accepted hbase
  obtain ⟨hcontent, hheight, hdialect⟩ := valid_of_checkLoaded hloaded
  exact ⟨hcontent, hheight, hdialect⟩

theorem valid_of_parse {levels : Nat} {path : Path} {source : List Char} {s : Loaded}
    (h : parse levels path source = .ok s) : s.Valid := by
  obtain ⟨v, _, h⟩ := bind_eq_ok.1 h
  have hchecked := mapError_eq_ok.1 h
  split at hchecked
  · cases hchecked
  · generalize hdata : checkLoaded (if isNothing v then .record [] else v) = checked at hchecked
    cases checked with
    | accepted t =>
      cases hchecked
      exact valid_of_checkLoaded hdata
    | refused issues => cases hchecked

theorem valid_of_load {levels : Nat} {store : Store} {named environment : Option String}
    {s : Loaded} (h : load levels store named environment = .ok s) : s.Valid := by
  unfold load at h
  split at h
  · cases h
    exact SettingsOver.valid_default
  split at h
  · cases h
    exact SettingsOver.valid_default
  · obtain ⟨_, _, h⟩ := bind_eq_ok.1 h
    obtain ⟨_, _, h⟩ := bind_eq_ok.1 h
    exact valid_of_parse h

end Settings

/-! ## Texts that several places may give -/

/-- The first of some texts that is there and not empty, if any is. -/
inductive FirstGiven : List (Option String) → Option String → Prop
  | nothing : FirstGiven [] none
  | here {s : String} {rest : List (Option String)} : s ≠ "" → FirstGiven (some s :: rest) (some s)
  | absent {rest : List (Option String)} {x : Option String} :
    FirstGiven rest x → FirstGiven (none :: rest) x
  | empty {rest : List (Option String)} {x : Option String} :
    FirstGiven rest x → FirstGiven (some "" :: rest) x

/-- The first text that is given, as it is computed: an empty text counts as none. -/
theorem firstGiven_iff {l : List (Option String)} {x : Option String} :
    FirstGiven l x ↔ l.foldr (fun o rest => (o.filter fun s => !s.isEmpty).or rest) none = x := by
  -- along the list: a text that is empty or not there leaves the choice to the rest
  induction l with
  | nil =>
    constructor
    · intro h
      cases h
      rfl
    · rintro rfl
      exact .nothing
  | cons o rest ih =>
    rw [List.foldr_cons]
    cases o with
    | none =>
      rw [Option.filter_none, Option.none_or, ← ih]
      exact ⟨fun h => by cases h; assumption, .absent⟩
    | some s =>
      by_cases hs : s = ""
      · subst hs
        rw [Option.filter_some_neg (by decide), Option.none_or, ← ih]
        constructor
        · intro h
          cases h with
          | here hs => exact absurd rfl hs
          | empty h => exact h
        · exact .empty
      · rw [Option.filter_some_pos (by simpa using hs), Option.some_or]
        constructor
        · intro h
          cases h with
          | here => rfl
          | empty => exact absurd rfl hs
        · rintro rfl
          exact .here hs

theorem firstGiven_one {o x : Option String} :
    FirstGiven [o] x ↔ (o.filter fun s => !s.isEmpty) = x := by
  rw [firstGiven_iff, List.foldr_cons, List.foldr_nil, Option.or_none]

/-- The resolver for notes under a base, if there is a base. -/
def Link.resolver? (base : Option String) : Option Resolver := base.map fun b => resolver b.toList

end RackElevation
