import Rangelink.Executor

/-! # Executors that run single jobs

Jobs that submit nothing are run in the order of their submission, and a run
leaves none of them behind.
-/
namespace Rangelink.Executor
variable {α : Type}

/-- The actions of the queued jobs, without the jobs that they submit. -/
def actions (x : Executor α) : List α := x.queue.map Job.action

/-- No queued job submits another. -/
def Flat (x : Executor α) : Prop := x.queue = x.actions.map Job.single

theorem flat_empty : Flat ({} : Executor α) := rfl

@[simp] theorem actions_empty : ({} : Executor α).actions = [] := rfl

@[simp] theorem actions_submit_single (a : α) (x : Executor α) :
    (x.submit (.single a)).actions = x.actions ++ [a] := by
  simp [actions, submit, Job.single, Job.action]

theorem Flat.submit_single {x : Executor α} (h : x.Flat) (a : α) : (x.submit (.single a)).Flat := by
  rw [Flat, actions_submit_single, List.map_append, ← h]
  rfl

theorem drainQueue_single (actions : List α) :
    drainQueue (fun _ => false) (actions.map Job.single) = ⟨actions, [], false⟩ := by
  induction actions with
  | nil => rw [List.map_nil, drainQueue]
  | cons a rest ih =>
    rw [List.map_cons, Job.single, drainQueue]
    simp [ih]

theorem Flat.drain {x : Executor α} (h : x.Flat) :
    x.drain (fun _ => false) = ⟨x.actions, [], false⟩ := by
  rw [Executor.drain, h]
  exact drainQueue_single x.actions

end Rangelink.Executor
