import Mathlib.Data.List.Forall2

/-
  Outcomes of steps that may fail

  A sequence of steps has the outcome of its first failure, and a result only if
  each step has one. The statements below say so for two steps and for a step
  at each element of a list.

  What is proved:
    1. `bind_eq_ok`, `bind_eq_error` — the two outcomes of one step after another.
    2. `mapM_eq_ok`, `mapM_eq_error` — the two outcomes of a step at each element.
    3. `succeeds_mapM` — all elements succeed exactly if each does.
    4. `failure?_bind` — the first failure of two steps.
-/

namespace RackElevation.Outcome

variable {α β γ ε ε' : Type}

/-- There is a result. -/
def Succeeds (x : Except ε α) : Prop := ∃ a, x = .ok a

theorem bind_eq_ok {x : Except ε α} {f : α → Except ε β} {b : β} :
    (x >>= f) = .ok b ↔ ∃ a, x = .ok a ∧ f a = .ok b := by
  cases x with
  | error e => exact ⟨fun h => (nomatch h), fun ⟨_, h, _⟩ => (nomatch h)⟩
  | ok a =>
    refine ⟨fun h => ⟨a, rfl, h⟩, ?_⟩
    intro h
    obtain ⟨_, h, hf⟩ := h
    cases h
    exact hf

theorem bind_eq_error {x : Except ε α} {f : α → Except ε β} {e : ε} :
    (x >>= f) = .error e ↔ x = .error e ∨ ∃ a, x = .ok a ∧ f a = .error e := by
  cases x with
  | error e' =>
    refine ⟨fun h => .inl ?_, ?_⟩
    · cases h
      rfl
    · intro h
      rcases h with h | ⟨_, h, _⟩
      · cases h
        rfl
      · cases h
  | ok a =>
    refine ⟨fun h => .inr ⟨a, rfl, h⟩, ?_⟩
    intro h
    rcases h with h | ⟨_, h, hf⟩
    · cases h
    · cases h
      exact hf

theorem map_eq_ok {x : Except ε α} {f : α → β} {b : β} :
    x.map f = .ok b ↔ ∃ a, x = .ok a ∧ f a = b := by
  cases x <;> simp [Except.map]

theorem mapError_eq_ok {x : Except ε α} {f : ε → ε'} {a : α} : x.mapError f = .ok a ↔ x = .ok a := by
  cases x <;> simp [Except.mapError]

theorem mapError_eq_error {x : Except ε α} {f : ε → ε'} {e : ε'} :
    x.mapError f = .error e ↔ ∃ e', x = .error e' ∧ f e' = e := by
  cases x <;> simp [Except.mapError]

theorem mapError_bind (x : Except ε α) (f : α → Except ε β) (g : ε → ε') :
    (x >>= f).mapError g = x.mapError g >>= fun a => (f a).mapError g := by
  cases x <;> rfl

theorem mapM_eq_ok {f : α → Except ε β} {l : List α} {r : List β} :
    l.mapM f = .ok r ↔ List.Forall₂ (fun a b => f a = .ok b) l r := by
  -- along the recursion of `mapM`: the results grow with the elements
  induction l generalizing r with
  | nil =>
    rw [List.mapM_nil, List.forall₂_nil_left_iff]
    exact ⟨fun h => by cases h; rfl, fun h => by rw [h]; rfl⟩
  | cons a l ih =>
    rw [List.mapM_cons, bind_eq_ok]
    constructor
    · intro h
      obtain ⟨b, hb, h⟩ := h
      obtain ⟨s, hs, h⟩ := bind_eq_ok.1 h
      cases h
      exact .cons hb (ih.1 hs)
    · intro h
      cases h with
      | cons hb hs => exact ⟨_, hb, bind_eq_ok.2 ⟨_, ih.2 hs, rfl⟩⟩

/-- What each result has, all results have. -/
theorem forall_of_mapM {f : α → Except ε β} {p : β → Prop} (hf : ∀ a b, f a = .ok b → p b)
    {l : List α} {r : List β} (h : l.mapM f = .ok r) : ∀ b ∈ r, p b := by
  have hpairs := mapM_eq_ok.1 h
  induction hpairs with
  | nil => exact fun b hb => nomatch hb
  | cons hb hrest ih => exact List.forall_mem_cons.2 ⟨hf _ _ hb, ih (mapM_eq_ok.2 hrest)⟩

/-- The first element that fails decides. -/
theorem mapM_eq_error {f : α → Except ε β} {l : List α} {e : ε} :
    l.mapM f = .error e ↔
      ∃ before a after, l = before ++ a :: after ∧ (∀ b ∈ before, Succeeds (f b)) ∧ f a = .error e := by
  induction l with
  | nil =>
    rw [List.mapM_nil]
    refine ⟨fun h => (nomatch h), ?_⟩
    intro h
    obtain ⟨before, a, after, h, _⟩ := h
    simp at h
  | cons a l ih =>
    rw [List.mapM_cons, bind_eq_error]
    constructor
    · intro h
      rcases h with h | ⟨b, hb, h⟩
      · exact ⟨[], a, l, rfl, by simp, h⟩
      · rcases bind_eq_error.1 h with h | ⟨_, _, h⟩
        · obtain ⟨before, c, after, rfl, hbefore, hc⟩ := ih.1 h
          refine ⟨a :: before, c, after, rfl, ?_, hc⟩
          exact List.forall_mem_cons.2 ⟨⟨b, hb⟩, hbefore⟩
        · cases h
    · intro h
      obtain ⟨before, c, after, hl, hbefore, hc⟩ := h
      -- the failure is that of the head, or the head succeeds and the tail fails
      cases before with
      | nil =>
        cases hl
        exact .inl hc
      | cons d before =>
        cases hl
        obtain ⟨⟨b, hb⟩, hbefore⟩ := List.forall_mem_cons.1 hbefore
        exact .inr ⟨b, hb, bind_eq_error.2 (.inl (ih.2 ⟨before, c, after, rfl, hbefore, hc⟩))⟩

theorem succeeds_ok (a : α) : Succeeds (.ok a : Except ε α) := ⟨a, rfl⟩

theorem succeeds_pure (a : α) : Succeeds (pure a : Except ε α) := ⟨a, rfl⟩

theorem succeeds_of_isOk {x : Except ε α} (h : x.isOk = true) : Succeeds x := by
  cases x with
  | error e => cases h
  | ok a => exact ⟨a, rfl⟩

theorem not_succeeds_error (e : ε) : ¬Succeeds (.error e : Except ε α) := fun ⟨_, h⟩ => nomatch h

theorem succeeds_bind {x : Except ε α} {f : α → Except ε β} :
    Succeeds (x >>= f) ↔ ∃ a, x = .ok a ∧ Succeeds (f a) := by
  constructor
  · intro h
    obtain ⟨b, hb⟩ := h
    obtain ⟨a, ha, hf⟩ := bind_eq_ok.1 hb
    exact ⟨a, ha, b, hf⟩
  · intro h
    obtain ⟨a, ha, b, hf⟩ := h
    exact ⟨b, bind_eq_ok.2 ⟨a, ha, hf⟩⟩

/-- A step whose result does not matter for what comes after it. -/
theorem succeeds_bind_of_forall {x : Except ε α} {f : α → Except ε β} {p : Prop}
    (h : ∀ a, x = .ok a → (Succeeds (f a) ↔ p)) : Succeeds (x >>= f) ↔ Succeeds x ∧ p := by
  rw [succeeds_bind]
  constructor
  · intro h
    obtain ⟨a, ha, hf⟩ := h
    exact ⟨⟨a, ha⟩, (h a ha).1 hf⟩
  · intro h
    obtain ⟨⟨a, ha⟩, hp⟩ := h
    exact ⟨a, ha, (h a ha).2 hp⟩

theorem succeeds_bind_pure {x : Except ε α} {f : α → β} :
    Succeeds (x >>= fun a => pure (f a)) ↔ Succeeds x := by
  rw [succeeds_bind_of_forall fun a _ => iff_true_intro (succeeds_pure (f a)), and_true]

theorem succeeds_map {x : Except ε α} {f : α → β} : Succeeds (x.map f) ↔ Succeeds x := by
  cases x <;> simp [Succeeds, Except.map]

theorem succeeds_mapError {x : Except ε α} {f : ε → ε'} : Succeeds (x.mapError f) ↔ Succeeds x := by
  cases x <;> simp [Succeeds, Except.mapError]

theorem succeeds_mapM {f : α → Except ε β} {l : List α} :
    Succeeds (l.mapM f) ↔ ∀ a ∈ l, Succeeds (f a) := by
  induction l with
  | nil => exact ⟨fun _ => by simp, fun _ => ⟨[], rfl⟩⟩
  | cons a l ih =>
    rw [List.mapM_cons, succeeds_bind_of_forall, List.forall_mem_cons]
    intro b _
    rw [succeeds_bind_pure, ih]

/-- The failure, if there is no result. -/
def failure? : Except ε α → Option ε
  | .error e => some e
  | .ok _ => none

theorem failure?_eq_some {x : Except ε α} {e : ε} : failure? x = some e ↔ x = .error e := by
  cases x <;> simp [failure?]

theorem failure?_eq_none {x : Except ε α} : failure? x = none ↔ Succeeds x := by
  cases x <;> simp [failure?, Succeeds]

/-- The second step fails in the same way whatever comes out of the first. -/
theorem failure?_bind {x : Except ε α} {f : α → Except ε β} {later : Option ε}
    (h : ∀ a, failure? (f a) = later) : failure? (x >>= f) = (failure? x).or later := by
  cases x with
  | error e => rfl
  | ok a => exact h a

theorem failure?_bind_pure {x : Except ε α} {f : α → β} :
    failure? (x >>= fun a => pure (f a)) = failure? x := by
  cases x <;> rfl

end RackElevation.Outcome
