/-
  Walking a text

  A text is walked from the left: at a character a step tells what it finds
  there and how many of the characters after it belong to the find, and the walk
  goes on behind them. It ends for every step, since each find takes at least
  one character.

  What is proved:
    1. `walk_length` — a walk makes at most as many finds as there are
       characters.
-/

namespace RackElevation.Text

/-- The finds of a walk whose next find starts `skip` characters further on. -/
def walkFrom {α : Type} (step : Char → List Char → α × Nat) (skip : Nat) : List Char → List α
  | [] => []
  | c :: r =>
    match skip with
    | n + 1 => walkFrom step n r
    | 0 => (step c r).1 :: walkFrom step (step c r).2 r

/-- The finds of a walk from the start of a text. -/
def walk {α : Type} (step : Char → List Char → α × Nat) (s : List Char) : List α :=
  walkFrom step 0 s

theorem walkFrom_length {α : Type} (step : Char → List Char → α × Nat) (skip : Nat)
    (s : List Char) : (walkFrom step skip s).length ≤ s.length := by
  induction s generalizing skip with
  | nil => simp [walkFrom]
  | cons c r ih =>
    cases skip with
    | zero => simpa [walkFrom] using ih _
    | succ n => exact Nat.le_trans (ih n) (Nat.le_succ _)

theorem walk_length {α : Type} (step : Char → List Char → α × Nat) (s : List Char) :
    (walk step s).length ≤ s.length :=
  walkFrom_length step 0 s

end RackElevation.Text
