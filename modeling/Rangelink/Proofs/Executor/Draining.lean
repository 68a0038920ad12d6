import Mathlib.Logic.Function.Iterate
import Mathlib.Data.List.Basic
import Rangelink.Executor

/-! # Executors that run jobs which submit jobs

However deep jobs submit further jobs, a run comes to an end: it goes through the
generations of the queued jobs one after another, runs every job once, and leaves
none behind. What is submitted first is run first.
-/
namespace Rangelink
open scoped List

namespace Job
variable {α : Type}

def followUps : Job α → List (Job α)
  | .mk _ js => js

mutual

/-- A job, the jobs that it submits, those that these submit, and so on. -/
def lineage : Job α → List (Job α)
  | .mk a followUps => .mk a followUps :: lineages followUps

def lineages : List (Job α) → List (Job α)
  | [] => []
  | j :: rest => lineage j ++ lineages rest

end

/-- The jobs that are submitted by those of the generation before. -/
def generation : Nat → List (Job α) → List (Job α)
  | 0, js => js
  | n + 1, js => (generation n js).flatMap followUps

/-- All jobs by generations. There are no more generations than there are jobs. -/
def breadthFirst (js : List (Job α)) : List (Job α) :=
  (List.range (weights js)).flatMap fun n => generation n js

/-- One round of a run: the first job is taken, and what it submits goes to the end. -/
def round : List (Job α) → List (Job α)
  | [] => []
  | j :: rest => rest ++ j.followUps

theorem weight_eq (j : Job α) : weight j = 1 + weights j.followUps := by
  cases j
  rfl

theorem lineage_eq (j : Job α) : lineage j = j :: lineages j.followUps := by
  cases j
  rfl

theorem weights_eq_zero_iff {js : List (Job α)} : weights js = 0 ↔ js = [] := by
  cases js with
  | nil => simp [weights]
  | cons j rest => simp [weights, weight_eq]

theorem lineages_append (js ks : List (Job α)) : lineages (js ++ ks) = lineages js ++ lineages ks := by
  induction js with
  | nil => simp [lineages]
  | cons j js ih => simp [lineages, ih]

/-- To run some jobs takes as much off the weight as there are jobs. -/
theorem weights_followUps (js : List (Job α)) :
    weights (js.flatMap followUps) + js.length = weights js := by
  induction js with
  | nil => rfl
  | cons j rest ih =>
    rw [List.flatMap_cons, weights_append, weights, weight_eq, List.length_cons]
    omega

theorem weights_round (js : List (Job α)) : weights (round js) = weights js - 1 := by
  cases js with
  | nil => rfl
  | cons j rest =>
    rw [round, weights_append, weights, weight_eq]
    omega

theorem weights_iterate_round (js : List (Job α)) (n : Nat) :
    weights (round^[n] js) = weights js - n := by
  induction n with
  | zero => rfl
  | succ n ih =>
    rw [Function.iterate_succ_apply', weights_round, ih]
    omega

theorem generation_weights (js : List (Job α)) : generation (weights js) js = [] := by
  -- as long as a generation has jobs, each one before it has taken something off the weight
  have hweight : ∀ n, generation n js ≠ [] → n + weights (generation n js) ≤ weights js := by
    intro n
    induction n with
    | zero =>
      intro _
      simp [generation]
    | succ n ih =>
      intro hne
      have hbefore : generation n js ≠ [] := by
        intro hnil
        simp [generation, hnil] at hne
      have hspent := weights_followUps (generation n js)
      have hlength := List.length_pos_of_ne_nil hbefore
      have hle := ih hbefore
      rw [generation]
      omega
  by_contra hne
  have hle := hweight (weights js) hne
  have hpos : weights (generation (weights js) js) ≠ 0 := mt weights_eq_zero_iff.mp hne
  omega

end Job

/-- An order in which the jobs of a queue come first, and then what each job of the order submits,
one job after another. -/
def InTurn {α : Type} (queue order : List (Job α)) : Prop :=
  order = queue ++ order.flatMap Job.followUps

namespace InTurn
variable {α : Type} {queue order : List (Job α)} {j : Job α}

theorem length_eq (h : InTurn queue order) : order.length = Job.weights queue := by
  have hspent := Job.weights_followUps order
  have hsplit := congrArg Job.weights h
  rw [Job.weights_append] at hsplit
  omega

theorem nil_iff : InTurn [] order ↔ order = [] := by
  constructor
  · intro h
    exact List.eq_nil_of_length_eq_zero h.length_eq
  · rintro rfl
    rfl

/-- The first job in turn is the first that is queued, and after it the turn is that of the queue
which it leaves. -/
theorem cons_iff {rest : List (Job α)} :
    InTurn queue (j :: rest) ↔
      ∃ waiting, queue = j :: waiting ∧ InTurn (waiting ++ j.followUps) rest := by
  constructor
  · intro h
    cases queue with
    | nil => cases nil_iff.mp h
    | cons k waiting =>
      rw [InTurn, List.flatMap_cons, List.cons_append] at h
      obtain ⟨rfl, hrest⟩ := List.cons.inj h
      refine ⟨waiting, rfl, ?_⟩
      rw [InTurn, List.append_assoc]
      exact hrest
  · rintro ⟨waiting, rfl, hrest⟩
    rw [InTurn, List.append_assoc] at hrest
    rw [InTurn, List.flatMap_cons, List.cons_append, ← hrest]

theorem unique {order' : List (Job α)} (h : InTurn queue order) (h' : InTurn queue order') :
    order = order' := by
  induction order generalizing queue order' with
  | nil =>
    have hlength := h'.length_eq
    rw [← h.length_eq] at hlength
    exact (List.eq_nil_of_length_eq_zero hlength).symm
  | cons j rest ih =>
    obtain ⟨waiting, rfl, hrest⟩ := cons_iff.mp h
    cases order' with
    | nil => cases h'
    | cons k rest' =>
      obtain ⟨waiting', heq, hrest'⟩ := cons_iff.mp h'
      cases heq
      rw [ih hrest hrest']

theorem perm_lineages (h : InTurn queue order) : order ~ Job.lineages queue := by
  induction order generalizing queue with
  | nil =>
    have hnil : queue = [] := Job.weights_eq_zero_iff.mp h.length_eq.symm
    rw [hnil]
    exact List.Perm.nil
  | cons j rest ih =>
    obtain ⟨waiting, rfl, hrest⟩ := cons_iff.mp h
    have hperm := ih hrest
    rw [Job.lineages_append] at hperm
    rw [Job.lineages, Job.lineage_eq, List.cons_append]
    exact (hperm.trans List.perm_append_comm).cons j

/-- When a job's turn comes, what was submitted up to then is what had its turn, the job itself, and
the jobs that wait; these come next, and then what the job submits. -/
theorem split {before after : List (Job α)} (h : InTurn queue (before ++ j :: after)) :
    ∃ waiting later, queue ++ before.flatMap Job.followUps = before ++ j :: waiting ∧
      after = waiting ++ j.followUps ++ later := by
  induction before generalizing queue with
  | nil =>
    obtain ⟨waiting, rfl, hrest⟩ := cons_iff.mp h
    exact ⟨waiting, after.flatMap Job.followUps, by simp, hrest⟩
  | cons k before ih =>
    obtain ⟨ahead, rfl, hrest⟩ := cons_iff.mp h
    obtain ⟨waiting, later, hsubmitted, hafter⟩ := ih hrest
    refine ⟨waiting, later, ?_, hafter⟩
    rw [List.flatMap_cons, List.cons_append, List.cons_append, ← hsubmitted, List.append_assoc]

theorem drainQueue {breaksOff : α → Bool} (h : InTurn queue order)
    (steady : ∀ j ∈ order, breaksOff j.action = false) :
    Executor.drainQueue breaksOff queue = ⟨order.map Job.action, [], false⟩ := by
  induction order generalizing queue with
  | nil =>
    have hnil : queue = [] := Job.weights_eq_zero_iff.mp h.length_eq.symm
    rw [hnil, Executor.drainQueue]
    rfl
  | cons j rest ih =>
    obtain ⟨waiting, rfl, hrest⟩ := cons_iff.mp h
    obtain ⟨hj, hsteady⟩ := List.forall_mem_cons.mp steady
    obtain ⟨a, followUps⟩ := j
    have ha : ¬ breaksOff a = true := by simpa [Job.action] using hj
    have hlater := ih hrest hsteady
    rw [Executor.drainQueue, if_neg ha]
    rw [Job.followUps] at hlater
    simp only [hlater, List.map_cons, Job.action]

theorem breadthFirst (queue : List (Job α)) : InTurn queue (Job.breadthFirst queue) := by
  -- one more generation adds nothing to the jobs by generations
  have hlast : (List.range (Job.weights queue + 1)).flatMap (Job.generation · queue) =
      Job.breadthFirst queue := by
    rw [List.range_succ, List.flatMap_append, List.flatMap_singleton, Job.generation_weights,
      List.append_nil]
    rfl
  rw [InTurn]
  conv_lhs => rw [← hlast]
  rw [List.range_succ_eq_map, List.flatMap_cons, List.flatMap_map, Job.breadthFirst,
    List.flatMap_assoc]
  rfl

end InTurn

namespace Executor
variable {α : Type}

/-- A run in which no job breaks off ends after as many rounds as there are jobs, queued or to be
submitted, with an empty queue. It runs each of them once, by generations and in the order of their
submission: whatever is submitted before a job is run before it. -/
theorem drained_by_generations {breaksOff : α → Bool} (x : Executor α)
    (steady : ∀ j ∈ Job.lineages x.queue, breaksOff j.action = false) :
    x.drain breaksOff = ⟨(Job.breadthFirst x.queue).map Job.action, [], false⟩ ∧
      (∀ rounds, Job.round^[rounds] x.queue = [] ↔ (x.drain breaksOff).ran.length ≤ rounds) ∧
      (x.drain breaksOff).ran.length = (Job.lineages x.queue).length ∧
      Job.breadthFirst x.queue ~ Job.lineages x.queue ∧
      (∀ order, order = x.queue ++ order.flatMap Job.followUps ↔
        order = Job.breadthFirst x.queue) ∧
      ∀ before j after, Job.breadthFirst x.queue = before ++ j :: after →
        ∃ waiting later, x.queue ++ before.flatMap Job.followUps = before ++ j :: waiting ∧
          after = waiting ++ j.followUps ++ later := by
  have hturn := InTurn.breadthFirst x.queue
  have hperm := hturn.perm_lineages
  have hdrain : x.drain breaksOff = ⟨(Job.breadthFirst x.queue).map Job.action, [], false⟩ :=
    hturn.drainQueue fun j hj => steady j (hperm.subset hj)
  have hran : (x.drain breaksOff).ran.length = Job.weights x.queue := by
    rw [hdrain, List.length_map, hturn.length_eq]
  refine ⟨hdrain, ?_, ?_, hperm, ?_, ?_⟩
  · intro rounds
    rw [← Job.weights_eq_zero_iff, Job.weights_iterate_round, hran]
    omega
  · rw [hran, ← hturn.length_eq, hperm.length_eq]
  · intro order
    constructor
    · intro horder
      exact InTurn.unique horder hturn
    · rintro rfl
      exact hturn
  · intro before j after hsplit
    rw [hsplit] at hturn
    exact hturn.split

/-- Two queued jobs, the first with jobs down to the third generation. -/
theorem drained_by_generations_nested :
    let x : Executor Nat := ⟨[⟨1, [⟨2, [.single 3]⟩, .single 4]⟩, ⟨5, [.single 6]⟩]⟩
    let breaksOff : Nat → Bool := fun a => a == 0
    (∀ j ∈ Job.lineages x.queue, breaksOff j.action = false) ∧
      x.drain breaksOff = ⟨[1, 5, 2, 4, 6, 3], [], false⟩ := by
  intro x breaksOff
  have steady : ∀ j ∈ Job.lineages x.queue, breaksOff j.action = false := by
    simp [x, breaksOff, Job.lineages, Job.lineage, Job.single, Job.action]
  obtain ⟨hdrain, -⟩ := drained_by_generations x steady
  exact ⟨steady, hdrain⟩

end Executor

end Rangelink
