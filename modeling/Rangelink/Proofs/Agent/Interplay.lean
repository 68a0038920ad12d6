import Rangelink.Proofs.Agent.Loop

/-! # Events and jobs one at a time

Between an agent and its adapter there are two queues: the events that the adapter
has to report, and the jobs of the executor. In an interplay they are taken from
the front of either queue in any order, one at a time.
-/
namespace Rangelink

/-- While the loop runs, it takes in whatever is forwarded. -/
theorem AgentRig.forward_running {rig : AgentRig} (h : rig.finished = none) (limit : Option Nat) :
    rig.forward limit =
      ((rig.agent.collect limit).1.length,
        { rig with
          agent := (rig.agent.collect limit).2.after (rig.agent.collect limit).1 }) := by
  have hcommands : ∀ c ∈ (rig.agent.collect limit).1, c.isShutdown = false := by
    intro c hc
    obtain ⟨event, -, rfl⟩ := List.mem_map.mp hc
    rfl
  have hrunning : ({ rig with agent := (rig.agent.collect limit).2 } : AgentRig).finished = none := h
  exact congrArg (Prod.mk _) (foldl_take_running hrunning hcommands)

/-- An agent, and the notices that its handlers heard so far. -/
structure Interplay where
  agent : Agent
  heard : List (Delivery Nat Unit) := []

namespace Interplay

inductive Move where
  | deliver
  | run
  deriving DecidableEq, Repr

/-- Hands the oldest event of the adapter to the agent. -/
def deliver (p : Interplay) : Option Interplay :=
  match p.agent.collect (some 1) with
  | ([], _) => none
  | (command :: rest, agent) => some { p with agent := agent.after (command :: rest) }

/-- Runs the oldest job of the executor. -/
def run (p : Interplay) : Option Interplay :=
  match p.agent.executor.queue with
  | [] => none
  | .mk task followUps :: rest =>
    some
      { agent := ({ p.agent with executor := ⟨rest ++ followUps⟩ } : Agent).perform task
        heard := p.heard ++ task.delivery?.toList }

def step : Move → Interplay → Option Interplay
  | .deliver => deliver
  | .run => run

/-- The state after moves in a given order, if each of them finds something to do. -/
def play : List Move → Interplay → Option Interplay
  | [], p => some p
  | move :: rest, p => (p.step move).bind (play rest)

/-- Both queues are empty. -/
def AtRest (p : Interplay) : Prop :=
  p.agent.station.adapter.outbox = some [] ∧ p.agent.executor.queue = []

section Queues
variable {p : Interplay} {a : Agent}

theorem perform_executor (x : Executor AgentTask) (a : Agent) (task : AgentTask) :
    ({ a with executor := x } : Agent).perform task = { a.perform task with executor := x } := by
  cases task with
  | tell n => rfl
  | give d =>
    simp only [Agent.perform]
    cases a.handlers[d.client]? with
    | none => rfl
    | some h =>
      simp only
      rcases h.hear d.notice with ⟨h', _ | order⟩ <;> rfl

theorem foldl_perform_executor (x : Executor AgentTask) (tasks : List AgentTask) (a : Agent) :
    tasks.foldl Agent.perform { a with executor := x } =
      { tasks.foldl Agent.perform a with executor := x } := by
  induction tasks generalizing a with
  | nil => rfl
  | cons task rest ih =>
    rw [List.foldl_cons, perform_executor, ih]
    rfl

theorem run_single {task : AgentTask} {rest : List (Job AgentTask)}
    (h : p.agent.executor.queue = .single task :: rest) :
    p.run = some
      { agent := { p.agent.perform task with executor := ⟨rest⟩ }
        heard := p.heard ++ task.delivery?.toList } := by
  rw [Job.single] at h
  rw [run, h]
  simp only [List.append_nil, perform_executor]

/-- A run of the whole queue makes one move for each job in it. -/
theorem play_runTasks (h : p.agent.executor.Flat) :
    p.play (List.replicate p.agent.executor.pending .run) =
      some { agent := p.agent.runTasks.2, heard := p.heard ++ p.agent.deliveries } := by
  have each : ∀ (tasks : List AgentTask) (p : Interplay),
      p.agent.executor.queue = tasks.map .single →
      p.play (List.replicate tasks.length .run) = some
        { agent := { tasks.foldl Agent.perform p.agent with executor := {} }
          heard := p.heard ++ tasks.filterMap (·.delivery?) } := by
    intro tasks
    induction tasks with
    | nil =>
      intro p hp
      have hempty : p.agent.executor = {} := by
        rcases hx : p.agent.executor with ⟨queue⟩
        rw [hx] at hp
        rw [show queue = [] from hp]
      simp [play, ← hempty]
    | cons task rest ih =>
      intro p hp
      rw [List.length_cons, List.replicate_succ, play, step, run_single hp, Option.bind_some,
        ih _ rfl, foldl_perform_executor, List.filterMap_cons]
      cases task.delivery? <;> simp
  have hplay := each p.agent.executor.actions p h
  have hpending : p.agent.executor.actions.length = p.agent.executor.pending := by
    simp [Executor.actions, Executor.pending]
  rw [hpending] at hplay
  rw [hplay, Agent.runTasks, h.drain]
  simp only [foldl_perform_executor]
  rfl

/-- The move of an event is the forwarding of one event while the loop runs. -/
theorem deliver_eq_forward {rig : AgentRig} (h : rig.finished = none)
    (heard : List (Delivery Nat Unit)) :
    deliver ⟨rig.agent, heard⟩ =
      if (rig.forward (some 1)).1 = 0 then none
      else some ⟨(rig.forward (some 1)).2.agent, heard⟩ := by
  rw [deliver, AgentRig.forward_running h]
  rcases rig.agent.collect (some 1) with ⟨_ | ⟨c, rest⟩, agent⟩ <;> rfl

theorem deliver_event {event : RangingEvent} {rest : List RangingEvent}
    (hc : p.agent.station.context = Agent.context)
    (h : p.agent.station.adapter.outbox = some (event :: rest)) :
    p.deliver = some
      { p with
        agent := Agent.submit ((p.agent.station.registry.receive event).2.map .give)
          { p.agent with
            station.adapter.outbox := some rest
            station.registry := (p.agent.station.registry.receive event).1 } } := by
  have hcollect : p.agent.collect (some 1) =
      ([.ranging event], { p.agent with station.adapter.outbox := some rest }) := by
    simp [Agent.collect, Station.collect, Adapter.collect, h]
  have hc' : ({ p.agent with station.adapter.outbox := some rest } : Agent).station.context =
      Agent.context := hc
  simp only [deliver, hcollect, Agent.after, List.foldl_cons, List.foldl_nil]
  rw [Agent.handle_ranging hc']

end Queues

end Interplay

end Rangelink
