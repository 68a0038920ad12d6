/-! # Rounds

A round moves what is waiting and counts it. Rounds are repeated until one moves
nothing, which some systems never come to, so their number is limited.
-/
namespace Rangelink

/-- The total moved by rounds up to the first that moves nothing, and the state after them. -/
def repeatRounds {σ : Type} (round : σ → Nat × σ) : Nat → Nat → σ → Nat × σ
  | 0, total, s => (total, s)
  | limit + 1, total, s =>
    match round s with
    | (0, s) => (total, s)
    | (moved, s) => repeatRounds round limit (total + moved) s

def manyRounds : Nat := 1000000

end Rangelink
