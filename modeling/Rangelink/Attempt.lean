import Rangelink.Failure

/-! # Sequences of attempts

Two ways to perform a list of calls that may fail: to go on past failures and
answer with the first of them, or to stop at the first.
-/
namespace Rangelink

abbrev Outcome := Except Failure Unit

section
variable {α σ : Type} (step : α → σ → Outcome × σ)

/-- Attempts every call; the outcome is the first failure, if any. -/
def attemptEach : List α → σ → Outcome × σ
  | [], s => (.ok (), s)
  | a :: rest, s =>
    let now := step a s
    let later := attemptEach rest now.2
    (firstFailure now.1 later.1, later.2)

/-- Attempts the calls up to the first that fails. -/
def attemptUntilFailure : List α → σ → Outcome × σ
  | [], s => (.ok (), s)
  | a :: rest, s =>
    match step a s with
    | (.ok (), s) => attemptUntilFailure rest s
    | (.error e, s) => (.error e, s)

end

end Rangelink
