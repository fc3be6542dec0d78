import RackElevation.Proofs.Data.Acceptance

/-
  Where issues are reported

  A check goes on after an issue, so the issues of a record are those of its
  fields together with its unknown keys, and the issues of a list are those of
  its elements. Each is reported with the path that leads to the part it is an
  issue of: what is wrong with a part is wrong with the whole, below that path.

  What is proved:
    1. `issues_seq` — two checks together report the issues of both.
    2. `mem_issues_listOf` — what is wrong with an element is wrong with its list.
    3. `mem_extraIssues` — every unknown key is reported.
    4. `refused_of_mem` — a check with an issue refuses.
-/

namespace RackElevation.Data

variable {α β : Type}

/-- The issues of an outcome. -/
def Checked.issues : Checked α → List Issue
  | .accepted _ => []
  | .refused issues => issues

/-- An issue as it is reported further out. -/
def Issue.below (path : List Step) (i : Issue) : Issue := { i with path := path ++ i.path }

theorem Issue.below_below (p q : List Step) (i : Issue) :
    (i.below q).below p = i.below (p ++ q) := by
  simp [Issue.below]

theorem refused_of_mem {x : Checked α} {i : Issue} (h : i ∈ x.issues) :
    ∃ issues, x = .refused issues ∧ i ∈ issues := by
  cases x with
  | accepted a => cases h
  | refused issues => exact ⟨issues, rfl, h⟩

/-! ## One check after another -/

theorem issues_seq (f : Checked (α → β)) (x : Checked α) :
    (f <*> x).issues = f.issues ++ x.issues := by
  show (Checked.seq f fun _ => x).issues = _
  cases f <;> cases x <;> simp [Checked.seq, Checked.issues]

theorem issues_map (g : α → β) (x : Checked α) : (g <$> x).issues = x.issues :=
  issues_seq (.accepted g) x

theorem issues_under (step : Step) (x : Checked α) :
    (x.under step).issues = x.issues.map (Issue.below [step]) := by
  cases x <;> rfl

theorem mem_issues_andThen {x : Checked α} {f : α → Checked β} {i : Issue} (h : i ∈ x.issues) :
    i ∈ (x.andThen f).issues := by
  obtain ⟨issues, rfl, hi⟩ := refused_of_mem h
  exact hi

/-! ## Lists -/

section Lists

variable {check : Value → Checked α} {l : List Value} {k : Nat} {v : Value} {i : Issue}

theorem mem_issues_each (n : Nat) (hv : l[k]? = some v) (hi : i ∈ (check v).issues) :
    i.below [.index (n + k)] ∈ (Checked.each check n l).issues := by
  induction l generalizing n k with
  | nil => cases hv
  | cons w l ih =>
    rw [Checked.each, issues_seq, issues_map, issues_under, List.mem_append]
    cases k with
    | zero =>
      cases hv
      exact .inl (List.mem_map_of_mem hi)
    | succ k =>
      have hrest := ih (n + 1) hv
      rw [Nat.add_right_comm] at hrest
      exact .inr hrest

theorem mem_issues_listOf (hv : l[k]? = some v) (hi : i ∈ (check v).issues) :
    i.below [.index k] ∈ (listOf check (.list l)).issues := by
  have h := mem_issues_each 0 hv hi
  rwa [Nat.zero_add] at h

end Lists

/-! ## Records -/

section Records

variable {check : Value → Checked α} {model name : String} {names : List String}
  {fields : List (Value × Value)} {v x : Value} {i : Issue}

theorem issues_withDefault {default : α} (hx : v.field? name = some x) :
    (withDefault name default check v).issues = (check x).issues.map (Issue.below [.field name]) := by
  rw [withDefault, hx]
  exact issues_under _ _

theorem issues_required (hx : v.field? name = some x) :
    (required name check v).issues = (check x).issues.map (Issue.below [.field name]) := by
  rw [required, hx]
  exact issues_under _ _

theorem issues_recordOf : (recordOf model names check (.record fields)).issues =
    (check (.record fields)).issues ++ extraIssues names fields := by
  rw [recordOf]
  cases check (.record fields) <;> cases extraIssues names fields <;> simp [Checked.issues]

theorem issues_recordOf_of_ne (h : ∀ fields, v ≠ .record fields) :
    (recordOf model names check v).issues = [⟨[], .notRecord model⟩] := by
  cases v with
  | record fields => exact absurd rfl (h fields)
  | _ => rfl

theorem mem_extraIssues {k : String} (hk : (.text k, x) ∈ fields) (hnames : k ∉ names) :
    ⟨[.field k], .extra⟩ ∈ extraIssues names fields := by
  induction fields with
  | nil => cases hk
  | cons f fields ih =>
    obtain rfl | hk := List.mem_cons.1 hk
    · rw [extraIssues, if_neg (by simpa using hnames)]
      exact List.mem_cons_self
    · have hrest := ih hk
      -- whatever the first key is, the issues of the others follow
      obtain ⟨key, y⟩ := f
      cases key with
      | text l =>
        rw [extraIssues]
        split
        · exact hrest
        · exact List.mem_cons_of_mem _ hrest
      | _ => exact List.mem_cons_of_mem _ hrest

theorem mem_of_field? (hx : v.field? name = some x) :
    ∃ fields, v = .record fields ∧ (.text name, x) ∈ fields := by
  cases v with
  | record fields =>
    obtain ⟨⟨key, y⟩, hmem, hy⟩ := List.exists_of_findSome?_eq_some hx
    refine ⟨fields, rfl, ?_⟩
    cases key with
    | text l =>
      dsimp only at hy
      split at hy
      · next hl =>
        cases hy
        rwa [← hl]
      · cases hy
    | _ => cases hy
  | _ => cases hx

end Records

end RackElevation.Data
