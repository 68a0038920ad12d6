import Rangelink.SortedMap

/-! # Refusals on demand

A queue for each kind of call says what becomes of the coming calls of that
kind: a text refuses the call with that reason, and an absent text or an empty
queue lets it through.
-/
namespace Rangelink

structure Refusals (ν : Type) [StrictOrder ν] where
  queues : SortedMap ν (List (Option String)) := .empty
  deriving DecidableEq

namespace Refusals
variable {ν : Type} [StrictOrder ν] [DecidableEq ν]

def queue (call : ν) (r : Refusals ν) : List (Option String) := (r.queues.get? call).getD []

/-- The reason to refuse the next call, if it is to be refused, and the queues after it. -/
def next (call : ν) (r : Refusals ν) : Option String × Refusals ν :=
  match r.queue call with
  | [] => (none, r)
  | front :: rest => (front, ⟨r.queues.insert call rest⟩)

def append (call : ν) (entries : List (Option String)) (r : Refusals ν) : Refusals ν :=
  ⟨r.queues.insert call (r.queue call ++ entries)⟩

end Refusals

end Rangelink
