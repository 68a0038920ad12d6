import Rangelink.Proofs.Executor
import Rangelink.Proofs.RouteSelection.Step
import Rangelink.Proofs.Tracker.Frame
import Rangelink.Proofs.Tracker.Run

/-! # What the owner of a tracker hears

The owner hears of the events for route selection and of nothing else. What it was
told, followed by what is queued for it, is what a fresh selection notifies of the
events delivered under the route-selection identifier before the teardown.
-/
namespace Rangelink.TrackerRig

/-- What the owner was told, followed by what is queued for it. -/
def heard (rig : TrackerRig) : List Notification := rig.told ++ rig.executor.actions

/-- The event that a command delivers to the route selection filed under `route`. -/
def Command.selected? (owner : ThreadId) (route : CallbackId) : Command → Option NetworkEvent
  | .event caller addressee e =>
    if caller = owner ∧ addressee.resolve (some route) = route then some e else none
  | .update _ _ | .teardown _ | .run | .refuse _ _ | .drop _ => none

def Command.endsTracker (owner : ThreadId) : Command → Bool
  | .teardown caller => decide (caller = owner)
  | .event _ _ _ | .update _ _ | .run | .refuse _ _ | .drop _ => false

/-- The events that a run delivers to the route selection, in order, up to the teardown. -/
def selectedEvents (owner : ThreadId) (route : CallbackId) (commands : List Command) :
    List NetworkEvent :=
  (commands.takeWhile fun c => !c.endsTracker owner).filterMap (·.selected? owner route)

section Steps
variable {owner : ThreadId} {route : CallbackId} {rig : TrackerRig} {command : Command}

theorem selectedEvents_cons_ends (h : command.endsTracker owner = true) (rest : List Command) :
    selectedEvents owner route (command :: rest) = [] := by
  simp [selectedEvents, h]

theorem selectedEvents_cons (h : command.endsTracker owner = false) (rest : List Command) :
    selectedEvents owner route (command :: rest) =
      (command.selected? owner route).toList ++ selectedEvents owner route rest := by
  unfold selectedEvents
  rw [List.takeWhile_cons_of_pos (by simp [h]), List.filterMap_cons]
  cases command.selected? owner route <;> rfl

/-- The tracker runs on the thread of `owner`, with route selection filed under `route`. -/
structure Running (owner : ThreadId) (route : CallbackId) (rig : TrackerRig) : Prop where
  owner : rig.tracker.context.owner = owner
  route : rig.tracker.route = some route
  flat : rig.executor.Flat

/-- A step hands the selected event, if any, to the selection, and queues what that notifies. -/
structure Follows (rig : TrackerRig) (events : List NetworkEvent) (rig' : TrackerRig) : Prop where
  selection : rig'.tracker.selection = rig.tracker.selection.after events
  heard : rig'.heard = rig.heard ++ rig.tracker.selection.notifications events

theorem Follows.refl (rig : TrackerRig) : Follows rig [] rig :=
  ⟨rfl, by simp [RouteSelection.notifications, RouteSelection.replay]⟩

theorem flat_run (h : rig.executor.Flat) :
    rig.run.2 = { rig with executor := {}, told := rig.heard } := by
  simp [run, h.drain, heard]

theorem flat_notify (h : rig.executor.Flat) (n : Option Notification) :
    (rig.notify n).executor.Flat := by
  cases n with
  | none => exact h
  | some n => exact h.submit_single n

theorem heard_notify (n : Option Notification) (rig : TrackerRig) :
    (rig.notify n).heard = rig.heard ++ n.toList := by
  cases n <;> simp [notify, heard]

theorem tracker_notify (n : Option Notification) (rig : TrackerRig) :
    (rig.notify n).tracker = rig.tracker := by
  cases n <;> rfl

theorem deliver_selected (h : Running owner route rig) (event : NetworkEvent) :
    Running owner route (rig.deliver owner route event).2 ∧
      Follows rig [event] (rig.deliver owner route event).2 := by
  obtain ⟨howner, hroute, hflat⟩ := h
  subst howner
  have hreceive : rig.tracker.receive rig.tracker.context.owner route event =
      (.ok (rig.tracker.selection.apply event).2,
        { rig.tracker with selection := (rig.tracker.selection.apply event).1 }) := by
    rw [Tracker.receive, Context.guarded_owner]
    simp only [hroute, if_true]
    rfl
  simp only [deliver, hreceive]
  refine ⟨⟨?_, ?_, ?_⟩, ?_, ?_⟩
  · rw [tracker_notify]
  · rw [tracker_notify]
    exact hroute
  · refine flat_notify ?_ _
    exact hflat
  · rw [tracker_notify]
    rfl
  · rw [heard_notify, RouteSelection.notifications_cons]
    simp [heard, RouteSelection.notifications, RouteSelection.replay]

/-- An event of another callback, or one delivered off the context, is not listened to. -/
theorem deliver_unselected (h : Running owner route rig) {caller : ThreadId} {id : CallbackId}
    (hother : ¬ (caller = owner ∧ id = route)) (event : NetworkEvent) :
    (rig.deliver caller id event).2 = rig := by
  obtain ⟨howner, hroute, -⟩ := h
  by_cases hc : caller = rig.tracker.context.owner
  · have hid : ¬ rig.tracker.route = some id := by
      rw [hroute]
      rintro ⟨⟩
      exact hother ⟨hc.trans howner, rfl⟩
    subst hc
    have hreceive : rig.tracker.receive rig.tracker.context.owner id event =
        (.ok none, rig.tracker) := by
      rw [Tracker.receive, Context.guarded_owner]
      simp only [hid, if_false]
      rfl
    simp only [deliver, hreceive]
    rfl
  · have hreceive : rig.tracker.receive caller id event = (.error .offContext, rig.tracker) := by
      rw [Tracker.receive, Context.guarded_of_ne hc]
    simp only [deliver, hreceive]

theorem step_running (h : Running owner route rig) (stays : command.endsTracker owner = false) :
    Running owner route (rig.step command).2 ∧
      Follows rig (command.selected? owner route).toList (rig.step command).2 := by
  have same : ∀ rig' : TrackerRig, rig'.tracker.bare = rig.tracker.bare →
      rig'.tracker.route = rig.tracker.route → rig'.executor.Flat → rig'.heard = rig.heard →
      Running owner route rig' ∧ Follows rig [] rig' := by
    intro rig' hbare hroute hflat hheard
    have hcontext := congrArg Tracker.context hbare
    have hselection := congrArg Tracker.selection hbare
    refine ⟨⟨?_, hroute.trans h.route, hflat⟩, hselection, ?_⟩
    · rw [← h.owner]
      exact congrArg Context.owner hcontext
    · rw [hheard]
      exact (Follows.refl rig).heard
  cases command with
  | event caller addressee event =>
    simp only [step, Command.selected?, h.route]
    split
    · rename_i hselected
      rw [hselected.1, hselected.2]
      exact deliver_selected h event
    · rename_i hother
      rw [deliver_unselected h hother]
      exact ⟨h, .refl rig⟩
  | update caller snapshot =>
    have hframed := Tracker.framed_update caller snapshot rig.tracker rig.service
    obtain ⟨f, hf, hroute⟩ := Option.bind_eq_some_iff.mp h.route
    obtain ⟨cells, hcells⟩ := hframed.recorded f hf
    refine same (rig.step (.update caller snapshot)).2 hframed.bare ?_ h.flat rfl
    rw [h.route, Tracker.route]
    simp only [step]
    rw [hcells]
    exact hroute
  | teardown caller =>
    have hc : caller ≠ rig.tracker.context.owner := by
      rw [h.owner]
      simpa [Command.endsTracker] using stays
    have hstep : (rig.step (.teardown caller)).2 = rig := by
      simp only [step, Tracker.teardown, Context.guarded_of_ne hc]
    rw [hstep]
    exact ⟨h, .refl rig⟩
  | run =>
    refine same (rig.step .run).2 rfl rfl ?_ ?_
    · simp only [step, flat_run h.flat]
      exact Executor.flat_empty
    · simp only [step, flat_run h.flat]
      simp [heard]
  | refuse verb entries => exact same (rig.step (.refuse verb entries)).2 rfl rfl h.flat rfl
  | drop id => exact same (rig.step (.drop id)).2 rfl rfl h.flat rfl

/-- Once the tracker is torn down, nothing more is queued for the owner. -/
theorem step_ended (h : rig.tracker.filings = none) (hflat : rig.executor.Flat) (command : Command) :
    (rig.step command).2.tracker.filings = none ∧ (rig.step command).2.executor.Flat ∧
      (rig.step command).2.heard = rig.heard := by
  refine ⟨step_tornDown h command, ?_⟩
  cases hc : command.caller? with
  | some caller =>
    rw [step_idle h hc]
    exact ⟨hflat, rfl⟩
  | none =>
    cases command with
    | event caller addressee event => cases hc
    | update caller snapshot => cases hc
    | teardown caller => cases hc
    | run =>
      simp only [step, flat_run hflat]
      exact ⟨Executor.flat_empty, by simp [heard]⟩
    | refuse verb entries => exact ⟨hflat, rfl⟩
    | drop id => exact ⟨hflat, rfl⟩

end Steps

section Runs
variable {owner : ThreadId} {route : CallbackId} {rig : TrackerRig} {commands : List Command}

theorem after_ended (h : rig.tracker.filings = none) (hflat : rig.executor.Flat) :
    (rig.after commands).heard = rig.heard ∧ (rig.after commands).executor.Flat := by
  induction commands generalizing rig with
  | nil => exact ⟨rfl, hflat⟩
  | cons command rest ih =>
    obtain ⟨hended, hflat', hheard⟩ := step_ended h hflat command
    obtain ⟨hrest, hflat''⟩ := ih hended hflat'
    exact ⟨hrest.trans hheard, hflat''⟩

theorem step_teardown_ends (h : Running owner route rig) {command : Command}
    (hends : command.endsTracker owner = true) :
    (rig.step command).2.tracker.filings = none ∧ (rig.step command).2.executor = rig.executor ∧
      (rig.step command).2.told = rig.told := by
  cases command with
  | teardown caller =>
    have hc : caller = rig.tracker.context.owner := by
      rw [h.owner]
      simpa [Command.endsTracker] using hends
    obtain ⟨f, hf, -⟩ := Option.bind_eq_some_iff.mp h.route
    rw [hc, step_teardown hf]
    exact ⟨rfl, rfl, rfl⟩
  | event caller addressee event => cases hends
  | update caller snapshot => cases hends
  | run => cases hends
  | refuse verb entries => cases hends
  | drop id => cases hends

theorem after_running (h : Running owner route rig) (commands : List Command) :
    (rig.after commands).heard = rig.heard ++
        rig.tracker.selection.notifications (selectedEvents owner route commands) ∧
      (rig.after commands).executor.Flat := by
  induction commands generalizing rig with
  | nil => exact ⟨(Follows.refl rig).heard, h.flat⟩
  | cons command rest ih =>
    cases hends : command.endsTracker owner with
    | true =>
      obtain ⟨hended, hexecutor, htold⟩ := step_teardown_ends h hends
      have hflat₀ : (rig.step command).2.executor.Flat := by
        rw [hexecutor]
        exact h.flat
      obtain ⟨hrest, hflat⟩ : _ ∧ ((rig.step command).2.after rest).executor.Flat :=
        after_ended hended hflat₀
      refine ⟨?_, hflat⟩
      rw [selectedEvents_cons_ends hends, ← (Follows.refl rig).heard]
      refine hrest.trans ?_
      simp only [heard, hexecutor, htold]
    | false =>
      obtain ⟨hrunning, hfollows⟩ := step_running h hends
      obtain ⟨hrest, hflat⟩ := ih hrunning
      refine ⟨?_, hflat⟩
      rw [selectedEvents_cons hends]
      refine hrest.trans ?_
      rw [hfollows.heard, hfollows.selection, List.append_assoc]
      cases command.selected? owner route with
      | none => simp [RouteSelection.notifications, RouteSelection.replay, RouteSelection.after]
      | some event =>
        rw [Option.toList_some, List.singleton_append, RouteSelection.notifications_cons,
          RouteSelection.notifications_cons, List.append_assoc]
        rfl

theorem running_started {caller : ThreadId} {context : Context} {group : Uuid}
    {snapshot : Snapshot} {required : SortedSet Capability} {service : Service}
    (started : (start caller context group snapshot required service).1 = .ok rig) :
    ∃ route, Running context.owner route rig ∧ rig.heard = [] ∧ rig.tracker.selection = {} := by
  obtain ⟨hs, hexecutor, htold⟩ := start_eq_ok started
  obtain ⟨hbare, -, wifi, cells, route, hf⟩ := Tracker.start_ok hs
  have hcontext := congrArg Tracker.context hbare
  have hselection := congrArg Tracker.selection hbare
  refine ⟨route, ⟨congrArg Context.owner hcontext, ?_, ?_⟩, ?_, hselection⟩
  · simp [Tracker.route, hf]
  · rw [hexecutor]
    exact Executor.flat_empty
  · rw [heard, hexecutor, htold]
    rfl

/-- No call tells the owner anything itself. -/
theorem told_step {command : Command} (h : command ≠ .run) (rig : TrackerRig) :
    (rig.step command).2.told = rig.told := by
  cases command with
  | event caller addressee event =>
    simp only [step, deliver]
    rcases rig.tracker.receive caller (addressee.resolve rig.tracker.route) event with
      ⟨e | n, tracker⟩
    · rfl
    · cases n <;> rfl
  | update caller snapshot => rfl
  | teardown caller => rfl
  | run => exact absurd rfl h
  | refuse verb entries => rfl
  | drop id => rfl

/-- After every run of a started tracker, what its owner heard or has yet to hear are the
notifications of the events delivered to route selection before the teardown. Two runs that agree on
these events are the same to the owner, and it is told only when its executor runs. -/
theorem hears_selected_events {caller caller' : ThreadId} {context context' : Context}
    {group group' : Uuid} {snapshot snapshot' : Snapshot}
    {required required' : SortedSet Capability} {service service' : Service} {rig rig' : TrackerRig}
    (started : (start caller context group snapshot required service).1 = .ok rig)
    (started' : (start caller' context' group' snapshot' required' service').1 = .ok rig') :
    ∃ route route', rig.tracker.route = some route ∧ rig'.tracker.route = some route' ∧
      (∀ commands, (rig.after commands).heard =
        RouteSelection.notifications (selectedEvents context.owner route commands) {}) ∧
      (∀ commands commands',
        selectedEvents context.owner route commands =
            selectedEvents context'.owner route' commands' →
          (rig.after commands).heard = (rig'.after commands').heard) ∧
      ∀ commands,
        (∀ command, command ≠ .run →
          ((rig.after commands).step command).2.told = (rig.after commands).told) ∧
        ((rig.after commands).step .run).2.told = (rig.after commands).heard := by
  have hears : ∀ {caller context group snapshot required service} {rig : TrackerRig},
      (start caller context group snapshot required service).1 = .ok rig →
      ∃ route, rig.tracker.route = some route ∧ ∀ commands,
        (rig.after commands).heard =
            RouteSelection.notifications (selectedEvents context.owner route commands) {} ∧
          (rig.after commands).executor.Flat := by
    intro caller context group snapshot required service rig h
    obtain ⟨route, hrunning, hheard, hselection⟩ := running_started h
    refine ⟨route, hrunning.route, ?_⟩
    intro commands
    have hafter := after_running hrunning commands
    rwa [hheard, hselection, List.nil_append] at hafter
  obtain ⟨route, hroute, h⟩ := hears started
  obtain ⟨route', hroute', h'⟩ := hears started'
  refine ⟨route, route', hroute, hroute', fun commands => (h commands).1, ?_, ?_⟩
  · intro commands commands' hsame
    rw [(h commands).1, (h' commands').1, hsame]
  · intro commands
    refine ⟨fun command hc => told_step hc _, ?_⟩
    simp only [step, flat_run (h commands).2]

/-- Bring-up events, an update with a refused withdrawal, a late event and a run of the executor
make no difference to the owner. -/
theorem hears_selected_events_loss :
    let lost : NetworkEvent := ⟨⟨5⟩, .lost⟩
    let available : NetworkEvent := ⟨⟨5⟩, .available⟩
    ∃ rig rig',
      (start ⟨0⟩ ⟨⟨0⟩⟩ .zero (.ofGroup .zero [⟨1⟩]) .empty {}).1 = .ok rig ∧
      (start ⟨0⟩ ⟨⟨0⟩⟩ .zero (.ofGroup .zero [⟨2⟩, ⟨3⟩]) .empty {}).1 = .ok rig' ∧
      (rig.after [.event ⟨0⟩ .route lost, .run]).heard =
        (rig'.after [.event ⟨0⟩ (.callback (.serial 0)) available, .refuse .withdraw [some "busy"],
          .update ⟨0⟩ (.ofGroup .zero []), .event ⟨0⟩ .route lost, .teardown ⟨0⟩,
          .event ⟨0⟩ (.callback (.serial 3)) lost]).heard := by
  intro lost available
  have started : ∃ rig, (start ⟨0⟩ ⟨⟨0⟩⟩ .zero (.ofGroup .zero [⟨1⟩]) .empty {}).1 = .ok rig ∧
      rig.tracker.route = some (.serial 2) := ⟨_, rfl, rfl⟩
  have started' : ∃ rig, (start ⟨0⟩ ⟨⟨0⟩⟩ .zero (.ofGroup .zero [⟨2⟩, ⟨3⟩]) .empty {}).1 = .ok rig ∧
      rig.tracker.route = some (.serial 3) := ⟨_, rfl, rfl⟩
  obtain ⟨rig, hrig, hroute⟩ := started
  obtain ⟨rig', hrig', hroute'⟩ := started'
  obtain ⟨route, route', hr, hr', -, hsame, -⟩ := hears_selected_events hrig hrig'
  cases hroute.symm.trans hr
  cases hroute'.symm.trans hr'
  exact ⟨rig, rig', hrig, hrig', hsame _ _ (by rfl)⟩

end Runs

end Rangelink.TrackerRig
