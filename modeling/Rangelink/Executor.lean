/-! # Executors

An executor queues jobs and runs them in the order of submission, together with
the jobs that they submit while running. A job that breaks off ends the run: it
is gone, submits nothing, and leaves the later jobs queued.
-/
namespace Rangelink

/-- An action, and the jobs that are submitted once it is done. -/
inductive Job (α : Type) where
  | mk (action : α) (followUps : List (Job α))

namespace Job
variable {α : Type}

def single (action : α) : Job α := ⟨action, []⟩

def action : Job α → α
  | .mk a _ => a

mutual

def weight : Job α → Nat
  | .mk _ followUps => 1 + weights followUps

def weights : List (Job α) → Nat
  | [] => 0
  | j :: rest => weight j + weights rest

end

theorem weights_append (js ks : List (Job α)) : weights (js ++ ks) = weights js + weights ks := by
  induction js with
  | nil => simp [weights]
  | cons j js ih => simp [weights, ih, Nat.add_assoc]

end Job

structure Executor (α : Type) where
  queue : List (Job α) := []

namespace Executor
variable {α : Type}

def submit (j : Job α) (x : Executor α) : Executor α := ⟨x.queue ++ [j]⟩

def pending (x : Executor α) : Nat := x.queue.length

/-- The actions run, the jobs left, and whether the last action broke off. -/
structure Drain (α : Type) where
  ran : List α
  left : List (Job α)
  brokeOff : Bool

def drainQueue (breaksOff : α → Bool) : List (Job α) → Drain α
  | [] => ⟨[], [], false⟩
  | .mk a followUps :: rest =>
    if breaksOff a then ⟨[a], rest, true⟩
    else
      let later := drainQueue breaksOff (rest ++ followUps)
      { later with ran := a :: later.ran }
termination_by queue => Job.weights queue
decreasing_by simp only [Job.weights_append, Job.weights, Job.weight]; omega

/-- Runs queued jobs until none is left or one breaks off. -/
def drain (breaksOff : α → Bool) (x : Executor α) : Drain α := drainQueue breaksOff x.queue

end Executor

end Rangelink
