import Rangelink.Proofs.Agent.Loop
import Rangelink.Proofs.Tracker.Hearing

/-! # The tracker in a merged run

What becomes of the tracker of an agent, and what its owner gets to hear, is decided
by the commands that are sent for the tracker. The ranging events among them make
no difference, nor do the moments at which jobs are run and events are forwarded.
-/
namespace Rangelink

theorem repeatRounds_keeps {σ : Type} {P : σ → Prop} {round : σ → Nat × σ}
    (next : ∀ s, P s → P (round s).2) {s : σ} (h : P s) (limit total : Nat) :
    P (repeatRounds round limit total s).2 := by
  induction limit generalizing s total with
  | zero => exact h
  | succ limit ih =>
    have hnow := next s h
    rw [repeatRounds]
    split
    · rename_i s' hround
      rw [hround] at hnow
      exact hnow
    · rename_i moved s' hround
      rw [hround] at hnow
      exact ih hnow _

theorem Station.context_command {κ ε : Type} (s : Session) (c : SessionCommand)
    (st : Station κ ε) : (st.command s c).2.context = st.context := by
  have hinstruct : (st.instruct s.handle c).2.context = st.context := by
    unfold instruct
    split <;> rfl
  show (st.registry.command instruct s c st).2.2.context = st.context
  unfold Registry.command
  split
  · rfl
  · rcases hi : st.instruct s.handle c with ⟨e | _, st'⟩
    · rw [hi] at hinstruct
      exact hinstruct
    · rw [hi] at hinstruct
      exact hinstruct

namespace TrackerRig

/-- The trackers and their services are the same, and so is what the owners heard or are to hear. -/
structure Alike (rig rig' : TrackerRig) : Prop where
  tracker : rig.tracker = rig'.tracker
  service : rig.service = rig'.service
  heard : rig.heard = rig'.heard

namespace Alike
variable {rig rig' : TrackerRig}

theorem refl (rig : TrackerRig) : Alike rig rig := ⟨rfl, rfl, rfl⟩

theorem trans {rig'' : TrackerRig} (h : Alike rig rig') (h' : Alike rig' rig'') : Alike rig rig'' :=
  ⟨h.tracker.trans h'.tracker, h.service.trans h'.service, h.heard.trans h'.heard⟩

theorem notify (h : Alike rig rig') (n : Option Notification) :
    Alike (rig.notify n) (rig'.notify n) := by
  refine ⟨?_, ?_, ?_⟩
  · rw [tracker_notify, tracker_notify, h.tracker]
  · cases n <;> exact h.service
  · rw [heard_notify, heard_notify, h.heard]

theorem deliver (h : Alike rig rig') (caller : ThreadId) (id : CallbackId) (event : NetworkEvent) :
    Alike (rig.deliver caller id event).2 (rig'.deliver caller id event).2 := by
  simp only [TrackerRig.deliver, h.tracker]
  rcases rig'.tracker.receive caller id event with ⟨e | n, t⟩
  · exact ⟨rfl, h.service, h.heard⟩
  · have hsame : Alike { rig with tracker := t } { rig' with tracker := t } :=
      ⟨rfl, h.service, h.heard⟩
    exact hsame.notify n

theorem step (h : Alike rig rig') {command : Command} (hc : command ≠ .run) :
    Alike (rig.step command).2 (rig'.step command).2 := by
  have hservice := h.service
  cases command with
  | event caller addressee event =>
    simp only [TrackerRig.step, h.tracker]
    exact h.deliver caller _ event
  | update caller snapshot =>
    simp only [TrackerRig.step, h.tracker, h.service]
    exact ⟨rfl, rfl, h.heard⟩
  | teardown caller =>
    simp only [TrackerRig.step, h.tracker, h.service]
    exact ⟨rfl, rfl, h.heard⟩
  | run => exact absurd rfl hc
  | refuse verb entries => exact ⟨h.tracker, by simp only [TrackerRig.step, hservice], h.heard⟩
  | drop id => exact ⟨h.tracker, by simp only [TrackerRig.step, h.tracker, hservice], h.heard⟩

end Alike

end TrackerRig

namespace Agent

/-- The agent's clients are on its own context, and its jobs submit no others. -/
structure Orderly (a : Agent) : Prop where
  station : a.station.context = context
  flat : a.executor.Flat

section Parts
variable {a : Agent}

theorem flat_submit (h : a.executor.Flat) (task : Option AgentTask) :
    (a.submit task).executor.Flat := by
  cases task with
  | none => exact h
  | some task => exact h.submit_single task

theorem Orderly.handle (h : Orderly a) (c : AgentCommand) : Orderly (a.handle c) := by
  refine ⟨?_, ?_⟩
  · rw [station_handle h.station]
    exact h.station
  · cases c with
    | network id event =>
      simp only [Agent.handle]
      rcases a.tracker.receive thread id event with ⟨e | n, t⟩
      · exact h.flat
      · cases n with
        | none => exact h.flat
        | some n => exact h.flat.submit_single _
    | ranging event =>
      rw [handle_ranging h.station]
      refine flat_submit ?_ _
      exact h.flat
    | snapshot snapshot => exact h.flat
    | shutdown => exact h.flat

theorem perform_parts (task : AgentTask) (a : Agent) :
    (a.perform task).station.context = a.station.context ∧ (a.perform task).tracker = a.tracker ∧
      (a.perform task).service = a.service ∧ (a.perform task).executor = a.executor ∧
      (a.perform task).told = a.told ++ task.notification?.toList := by
  cases task with
  | tell n => exact ⟨rfl, rfl, rfl, rfl, rfl⟩
  | give d =>
    simp only [perform]
    cases a.handlers[d.client]? with
    | none => exact ⟨rfl, rfl, rfl, rfl, (List.append_nil _).symm⟩
    | some h =>
      simp only
      rcases h.hear d.notice with ⟨h', _ | ⟨s, c⟩⟩
      · exact ⟨rfl, rfl, rfl, rfl, (List.append_nil _).symm⟩
      · exact ⟨Station.context_command s c a.station, rfl, rfl, rfl, (List.append_nil _).symm⟩

theorem foldl_perform_parts (tasks : List AgentTask) (a : Agent) :
    (tasks.foldl perform a).station.context = a.station.context ∧
      (tasks.foldl perform a).tracker = a.tracker ∧ (tasks.foldl perform a).service = a.service ∧
      (tasks.foldl perform a).executor = a.executor ∧
      (tasks.foldl perform a).told = a.told ++ tasks.filterMap (·.notification?) := by
  induction tasks generalizing a with
  | nil => exact ⟨rfl, rfl, rfl, rfl, (List.append_nil _).symm⟩
  | cons task rest ih =>
    obtain ⟨hstation, htracker, hservice, hexecutor, htold⟩ := perform_parts task a
    obtain ⟨hstation', htracker', hservice', hexecutor', htold'⟩ := ih (a.perform task)
    refine ⟨hstation'.trans hstation, htracker'.trans htracker, hservice'.trans hservice,
      hexecutor'.trans hexecutor, htold'.trans ?_⟩
    rw [htold, List.append_assoc, List.filterMap_cons]
    cases task.notification? <;> rfl

/-- Running the queued jobs tells the owner what was queued for it. -/
theorem runTasks_parts (h : Orderly a) :
    Orderly a.runTasks.2 ∧ a.runTasks.2.tracking.Alike a.tracking ∧
      a.runTasks.2.told = a.tracking.heard := by
  have hran : a.runTasks.2 = a.executor.actions.foldl perform { a with executor := {} } := by
    simp only [runTasks, h.flat.drain]
  have hheard : a.tracking.heard = a.told ++ a.executor.actions.filterMap (·.notification?) := by
    simp [TrackerRig.heard, tracking, Executor.actions, Job.single, Job.action,
      Function.comp_def]
  obtain ⟨hstation, htracker, hservice, hexecutor, htold⟩ :=
    foldl_perform_parts a.executor.actions { a with executor := {} }
  rw [hran]
  refine ⟨⟨hstation.trans h.station, ?_⟩, ⟨htracker, hservice, ?_⟩, htold.trans hheard.symm⟩
  · rw [hexecutor]
    exact Executor.flat_empty
  · rw [hheard, TrackerRig.heard, tracking, hexecutor]
    exact (List.append_nil _).trans htold

theorem exists_ranging_of_collect (limit : Option Nat) (a : Agent) :
    ∀ c ∈ (a.collect limit).1, ∃ event, c = .ranging event := by
  intro c hc
  obtain ⟨event, -, rfl⟩ := List.mem_map.mp hc
  exact ⟨event, rfl⟩

end Parts

/-- To their trackers and the owners of these, the agents are the same. -/
structure Alike (a b : Agent) : Prop where
  orderly : Orderly a
  orderly' : Orderly b
  tracking : a.tracking.Alike b.tracking

namespace Alike
variable {a b : Agent}

theorem refl (h : Orderly a) : Alike a a := ⟨h, h, .refl _⟩

theorem handle (h : Alike a b) (c : AgentCommand) : Alike (a.handle c) (b.handle c) := by
  refine ⟨h.orderly.handle c, h.orderly'.handle c, ?_⟩
  rw [tracking_handle h.orderly.station, tracking_handle h.orderly'.station]
  cases c with
  | network id event => exact h.tracking.step nofun
  | ranging event => exact h.tracking
  | snapshot snapshot => exact h.tracking.step nofun
  | shutdown => exact h.tracking

theorem teardown (h : Alike a b) :
    Alike a.teardown.2 b.teardown.2 ∧ a.teardown.1 = b.teardown.1 := by
  have htracker : a.tracker = b.tracker := h.tracking.tracker
  have hservice : a.service = b.service := h.tracking.service
  refine ⟨⟨⟨h.orderly.station, h.orderly.flat⟩, ⟨h.orderly'.station, h.orderly'.flat⟩, ?_⟩, ?_⟩
  · have hends : TrackerRig.Command.teardown thread ≠ .run := nofun
    exact h.tracking.step hends
  · simp only [Agent.teardown, htracker, hservice]

theorem ranging (h : Alike a b) {commands : List AgentCommand}
    (hc : ∀ c ∈ commands, ∃ event, c = .ranging event) : Alike (a.after commands) b := by
  induction commands generalizing a with
  | nil => exact h
  | cons c rest ih =>
    obtain ⟨⟨event, rfl⟩, hrest⟩ := List.forall_mem_cons.mp hc
    have hsame := tracking_handle h.orderly.station (.ranging event)
    refine ih ⟨h.orderly.handle _, h.orderly', ?_⟩ hrest
    rw [hsame]
    exact h.tracking

theorem runTasks (h : Alike a b) : Alike a.runTasks.2 b := by
  obtain ⟨horderly, htracking, -⟩ := runTasks_parts h.orderly
  exact ⟨horderly, h.orderly', htracking.trans h.tracking⟩

theorem collect (h : Alike a b) (limit : Option Nat) : Alike (a.collect limit).2 b :=
  ⟨⟨h.orderly.station, h.orderly.flat⟩, h.orderly', h.tracking⟩

end Alike

end Agent

namespace AgentRig

/-- The loops are at the same point, of agents that are the same to their trackers. -/
structure Alike (rig rig' : AgentRig) : Prop where
  agent : rig.agent.Alike rig'.agent
  finished : rig.finished = rig'.finished
  route : rig.route = rig'.route

namespace Alike
variable {rig rig' : AgentRig}

theorem finish (h : Alike rig rig') : Alike rig.finish rig'.finish := by
  obtain ⟨hagent, houtcome⟩ := h.agent.teardown
  have hfinished := h.finished
  unfold AgentRig.finish
  rw [hfinished]
  cases rig'.finished with
  | some outcome => exact h
  | none => exact ⟨hagent, congrArg some houtcome, h.route⟩

theorem take (h : Alike rig rig') (c : AgentCommand) : Alike (rig.take c) (rig'.take c) := by
  cases hf' : rig'.finished with
  | some outcome =>
    have hf := h.finished.trans hf'
    simp only [AgentRig.take, hf, hf']
    exact h
  | none =>
    have hf := h.finished.trans hf'
    cases hc : c.isShutdown with
    | true =>
      cases c with
      | shutdown =>
        simp only [AgentRig.take, hf, hf']
        exact h.finish
      | network id event => cases hc
      | ranging event => cases hc
      | snapshot subscriptions => cases hc
    | false =>
      rw [take_running hf hc, take_running hf' hc]
      exact ⟨h.agent.handle c, h.finished, h.route⟩

theorem ranging (h : Alike rig rig') {commands : List AgentCommand}
    (hc : ∀ c ∈ commands, ∃ event, c = .ranging event) :
    Alike (commands.foldl AgentRig.take rig) rig' := by
  cases hf : rig.finished with
  | some outcome =>
    rw [foldl_take_finished hf]
    exact h
  | none =>
    have hstays : ∀ c ∈ commands, c.isShutdown = false := by
      intro c hmem
      obtain ⟨event, rfl⟩ := hc c hmem
      rfl
    rw [foldl_take_running hf hstays]
    exact ⟨h.agent.ranging hc, h.finished, h.route⟩

theorem run (h : Alike rig rig') : Alike rig.run.2 rig' :=
  ⟨h.agent.runTasks, h.finished, h.route⟩

theorem forward (h : Alike rig rig') (limit : Option Nat) : Alike (rig.forward limit).2 rig' := by
  have hcollect : Alike { rig with agent := (rig.agent.collect limit).2 } rig' :=
    ⟨h.agent.collect limit, h.finished, h.route⟩
  exact hcollect.ranging (Agent.exists_ranging_of_collect limit rig.agent)

theorem pump (h : Alike rig rig') (limit total : Nat) :
    Alike (repeatRounds round limit total rig).2 rig' := by
  have next : ∀ rig, Alike rig rig' → Alike (round rig).2 rig' := fun _ h => h.run.forward none
  exact repeatRounds_keeps next h limit total

end Alike

/-- The command that an action sends for the tracker or to end the loop. -/
def Action.sent? (route : Option CallbackId) : Action → Option AgentCommand
  | .network addressee event => some (.network (addressee.resolve route) event)
  | .snapshot subscriptions => some (.snapshot subscriptions)
  | .shutdown => some .shutdown
  | .ranging _ | .closeChannel | .run | .forward _ | .pump | .refuseService _ _
  | .refuseAdapter _ _ => none

/-- All but a loss of the channel and a change to what the connectivity service refuses. -/
def Action.isOrderly : Action → Bool
  | .closeChannel | .refuseService _ _ => false
  | .network _ _ | .ranging _ | .snapshot _ | .shutdown | .run | .forward _ | .pump
  | .refuseAdapter _ _ => true

section Merged
variable {rig rig' : AgentRig} {actions : List Action}

theorem route_take (c : AgentCommand) (rig : AgentRig) : (rig.take c).route = rig.route := by
  unfold take
  split
  · rfl
  · unfold finish
    split <;> rfl
  · rfl

theorem Alike.step (h : Alike rig rig') {x : Action} (hx : x.isOrderly = true) :
    Alike (rig.step x).2 ((x.sent? rig'.route).toList.foldl AgentRig.take rig') := by
  cases x with
  | network addressee event =>
    simp only [AgentRig.step, h.route]
    exact h.take _
  | ranging event =>
    have hevent : ∀ c ∈ [AgentCommand.ranging event], ∃ event, c = .ranging event :=
      fun c hc => ⟨event, List.mem_singleton.mp hc⟩
    exact h.ranging hevent
  | snapshot snapshot => exact h.take _
  | shutdown => exact h.take _
  | closeChannel => cases hx
  | run => exact h.run
  | forward limit => exact h.forward limit
  | pump => exact h.pump manyRounds 0
  | refuseService verb entries => cases hx
  | refuseAdapter verb entries =>
    exact ⟨⟨⟨h.agent.orderly.station, h.agent.orderly.flat⟩, h.agent.orderly', h.agent.tracking⟩,
      h.finished, h.route⟩

/-- To the tracker, a merged run is the run of the commands that were sent for it, in order. -/
theorem Alike.after (h : Alike rig rig') (orderly : ∀ x ∈ actions, x.isOrderly = true) :
    Alike (rig.after actions)
      ((actions.filterMap (·.sent? rig'.route)).foldl AgentRig.take rig') := by
  induction actions generalizing rig rig' with
  | nil => exact h
  | cons x rest ih =>
    obtain ⟨hx, hrest⟩ := List.forall_mem_cons.mp orderly
    have hroute : ∀ c : Option AgentCommand,
        (c.toList.foldl AgentRig.take rig').route = rig'.route := by
      intro c
      cases c with
      | none => rfl
      | some c => exact route_take c rig'
    have hnext := ih (h.step hx) hrest
    rw [hroute] at hnext
    rw [List.filterMap_cons]
    cases hc : x.sent? rig'.route with
    | none =>
      rw [hc] at hnext
      exact hnext
    | some c =>
      rw [hc] at hnext
      exact hnext

end Merged

end AgentRig

end Rangelink
