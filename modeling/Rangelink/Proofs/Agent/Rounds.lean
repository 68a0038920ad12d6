import Mathlib.Logic.Function.Iterate
import Rangelink.Proofs.Agent.Rest

/-! # Sessions in rounds

A round runs the queued jobs and then takes in all that the adapter has reported. It
is an interplay in which the moves of one kind come before those of the other, so
that rounds bring sessions to rest like any other moves, and four of them will do.
-/
namespace Rangelink

/-- Where a round that moves nothing changes nothing, all rounds can as well be made. -/
theorem repeatRounds_eq_iterate {σ : Type} {round : σ → Nat × σ}
    (idle : ∀ s, (round s).1 = 0 → (round s).2 = s) (limit total : Nat) (s : σ) :
    (repeatRounds round limit total s).2 = (fun s => (round s).2)^[limit] s := by
  induction limit generalizing total s with
  | zero => rfl
  | succ limit ih =>
    rw [repeatRounds]
    split
    · rename_i s' hround
      have hsame := idle s (congrArg Prod.fst hround)
      rw [hround] at hsame
      change s' = s at hsame
      subst hsame
      exact (Function.iterate_fixed (congrArg Prod.snd hround) _).symm
    · rename_i moved s' hround
      rw [ih, Function.iterate_succ_apply, hround]

namespace AgentRig
variable {rig : AgentRig}

theorem run_idle (h : rig.run.1 = 0) : rig.run.2 = rig := by
  rcases hqueue : rig.agent.executor.queue with _ | ⟨⟨task, followUps⟩, rest⟩
  · have hdrain : rig.agent.executor.drain (fun _ => false) = ⟨[], [], false⟩ := by
      rw [Executor.drain, hqueue, Executor.drainQueue]
    simp only [run, Agent.runTasks, hdrain, List.foldl_nil, ← hqueue]
  · simp [run, Agent.runTasks, Executor.drain, hqueue, Executor.drainQueue] at h

theorem forward_idle (h : (rig.forward none).1 = 0) : (rig.forward none).2 = rig := by
  rcases houtbox : rig.agent.station.adapter.outbox with _ | _ | ⟨event, rest⟩
  · simp [forward, Agent.collect, Station.collect, Adapter.collect, houtbox]
  · have hsame : { rig.agent.station.adapter with outbox := some [] } =
        rig.agent.station.adapter := by rw [← houtbox]
    simp [forward, Agent.collect, Station.collect, Adapter.collect, houtbox, hsame]
  · simp [forward, Agent.collect, Station.collect, Adapter.collect, houtbox] at h

theorem round_idle (rig : AgentRig) (h : (round rig).1 = 0) : (round rig).2 = rig := by
  obtain ⟨hran, hmoved⟩ := Nat.add_eq_zero_iff.mp h
  have hrun := run_idle hran
  change (rig.run.2.forward none).1 = 0 at hmoved
  change (rig.run.2.forward none).2 = rig
  rw [forward_idle hmoved, hrun]

/-- Events can as well be forwarded one by one. -/
theorem forward_cons (running : rig.finished = none)
    (hc : rig.agent.station.context = Agent.context) {event : RangingEvent}
    {rest : List RangingEvent} (houtbox : rig.agent.station.adapter.outbox = some (event :: rest)) :
    let next := (rig.forward (some 1)).2
    next.finished = none ∧ next.agent.station.context = Agent.context ∧
      next.agent.station.adapter.outbox = some rest ∧ (rig.forward (some 1)).1 = 1 ∧
      rig.forward none = ((next.forward none).1 + 1, (next.forward none).2) := by
  have htake : ∀ left, ({ rig with agent.station.adapter.outbox := some left } : AgentRig).take
      (.ranging event) =
        { rig with
          agent := Agent.submit ((rig.agent.station.registry.receive event).2.map .give)
            { rig.agent with
              station.adapter.outbox := some left
              station.registry := (rig.agent.station.registry.receive event).1 } } := by
    intro left
    let before : AgentRig := { rig with agent.station.adapter.outbox := some left }
    have hrunning : before.finished = none := running
    have hcontext : before.agent.station.context = Agent.context := hc
    exact (take_running hrunning rfl).trans (by rw [Agent.handle_ranging hcontext])
  have hone : rig.forward (some 1) =
      (1, ({ rig with agent.station.adapter.outbox := some rest } : AgentRig).take
        (.ranging event)) := by
    simp [forward, Agent.collect, Station.collect, Adapter.collect, houtbox]
  have hall : rig.forward none =
      (rest.length + 1, (rest.map AgentCommand.ranging).foldl take
        (({ rig with agent.station.adapter.outbox := some [] } : AgentRig).take
          (.ranging event))) := by
    simp [forward, Agent.collect, Station.collect, Adapter.collect, houtbox]
  rw [hone, hall, htake, htake]
  cases (rig.agent.station.registry.receive event).2 <;>
    simp [forward, Agent.collect, Station.collect, Adapter.collect, Agent.submit, running, hc]

end AgentRig

namespace Script
variable {s : Script}

theorem reported_le_reported (s : Script) {i j : Nat} (h : i ≤ j) :
    s.reported i ≤ s.reported j := by
  induction h with
  | refl => exact Nat.le_refl _
  | step _ ih => exact Nat.le_trans ih (s.reported_mono _)

/-- The opening makes the handler start, the start lets all reports come, and with these it has
ordered the close, if it ever does. -/
theorem reported_thrice (s : Script) (place : Nat) :
    s.reported (s.reported (s.reported 0)) = (s.course place).length := by
  have hstart : s.reported (s.reported 0) = 2 + s.reports := by
    refine reported_of_not_ordered Nat.one_ne_zero ?_
    rintro ⟨-, hle⟩
    change 2 + s.closeAfter ≤ 1 at hle
    omega
  rw [hstart, length_course]
  by_cases hc : s.Closes
  · rw [reported_of_ordered ⟨hc, Nat.add_le_add_left hc.2 2⟩, if_pos hc]
    omega
  · rw [reported_of_not_ordered (by omega) (fun ho => hc ho.1), if_neg hc, Nat.add_zero]

end Script

namespace Interplay
variable {s : Script} {n d j : Nat} {p : Interplay} {rig : AgentRig}
  {heard : List (Delivery Nat Unit)}

theorem play_trans {moves more : List Move} {q r : Interplay} (h : p.play moves = some q)
    (h' : q.play more = some r) : p.play (moves ++ more) = some r := by
  induction moves generalizing p with
  | nil =>
    obtain rfl := Option.some.inj h
    exact h'
  | cons move rest ih =>
    obtain ⟨p₁, hstep, hplay⟩ := Option.bind_eq_some_iff.mp h
    exact Option.bind_eq_some_iff.mpr ⟨p₁, hstep, ih hplay⟩

theorem Wired.flat (hw : p.Wired) : p.agent.executor.Flat := by
  have hqueue := hw.queue
  rw [Executor.Flat, Executor.actions, hqueue, List.map_map, List.map_map]
  rfl

/-- At rest there is nothing left for a round. -/
theorem AtRest.round (h : AtRest ⟨rig.agent, heard⟩) : (AgentRig.round rig).2 = rig := by
  have houtbox : rig.agent.station.adapter.outbox = some [] := h.1
  have hqueue : rig.agent.executor.queue = [] := h.2
  have hran : rig.run.1 = 0 := by
    simp [AgentRig.run, Agent.runTasks, Executor.drain, hqueue, Executor.drainQueue]
  have hmoved : (rig.forward none).1 = 0 := by
    simp [AgentRig.forward, Agent.collect, Station.collect, Adapter.collect, houtbox]
  refine AgentRig.round_idle rig ?_
  change rig.run.1 + (rig.run.2.forward none).1 = 0
  rw [hran, AgentRig.run_idle hran, hmoved]

/-- All that is reported is forwarded as it would be delivered one by one. -/
theorem play_forward (running : rig.finished = none)
    (hc : rig.agent.station.context = Agent.context) {events : List RangingEvent}
    (houtbox : rig.agent.station.adapter.outbox = some events)
    (heard : List (Delivery Nat Unit)) :
    let next := (rig.forward none).2
    next.agent.station.adapter.outbox = some [] ∧
      (⟨rig.agent, heard⟩ : Interplay).play (List.replicate events.length .deliver) =
        some ⟨next.agent, heard⟩ := by
  induction events generalizing rig with
  | nil =>
    have hsame : (rig.forward none).2 = rig := by
      refine AgentRig.forward_idle ?_
      simp [AgentRig.forward, Agent.collect, Station.collect, Adapter.collect, houtbox]
    rw [hsame]
    exact ⟨houtbox, rfl⟩
  | cons event rest ih =>
    obtain ⟨hrunning, hcontext, hrest, hone, hall⟩ := AgentRig.forward_cons running hc houtbox
    have hdeliver : deliver ⟨rig.agent, heard⟩ =
        some ⟨(rig.forward (some 1)).2.agent, heard⟩ := by
      rw [deliver_eq_forward running, hone, if_neg Nat.one_ne_zero]
    rw [hall, List.length_cons, List.replicate_succ, play, step, hdeliver]
    exact ih hrunning hcontext hrest

/-- The first `n` sessions keep to their scripts and have all come equally far: `d` events of each
were taken in, and its handler heard `j` notices. -/
structure Abreast (s : Script) (n d j : Nat) (p : Interplay) : Prop where
  woven : Woven s n p
  heard : j ≤ d
  reported : d ≤ s.reported j
  strands : ∀ place, place < n → p.strand place = s.strand place d j

theorem abreast_opened (hn : n < 2 ^ 31) (tracker : Tracker) (service : Service) :
    Abreast s n 0 0 ⟨(Agent.idle s.reports tracker service).opened s n, []⟩ :=
  ⟨woven_opened hn, Nat.le_refl 0, Nat.zero_le _, fun _ hplace => strand_opened hn hplace⟩

theorem Abreast.atRest (h : Abreast s n d j p) (hend : ∀ place, (s.course place).length ≤ j) :
    p.AtRest := by
  have hreported : s.reported j ≤ j := Nat.le_trans (s.reported_le 0 j) (hend 0)
  rw [h.woven.atRest_iff]
  constructor
  · by_contra hevents
    obtain ⟨event, hevent⟩ := List.exists_mem_of_ne_nil _ hevents
    obtain ⟨place, hplace, hhandle⟩ := h.woven.addressed event hevent
    have hcoming := congrArg Strand.coming (h.strands place hplace)
    rw [Script.coming_eq_nil_iff.mpr (Nat.le_trans hreported h.heard)] at hcoming
    simp only [strand, List.map_eq_nil_iff, List.filter_eq_nil_iff] at hcoming
    exact hcoming event hevent (decide_eq_true hhandle)
  · by_contra hwaiting
    obtain ⟨delivery, hdelivery⟩ := List.exists_mem_of_ne_nil _ hwaiting
    have hleft := congrArg Strand.waiting (h.strands _ (h.woven.clients delivery hdelivery))
    rw [(Script.waiting_eq_nil_iff h.reported).mpr (Nat.le_trans h.reported hreported)] at hleft
    simp only [strand, List.map_eq_nil_iff, List.filter_eq_nil_iff] at hleft
    exact hleft delivery hdelivery (decide_eq_true rfl)

/-- Where all that was waiting has been heard, a handler has heard of every event that was taken in. -/
theorem heard_of_run {q : Interplay} {place d' j' : Nat} (hrun : q.heard = p.heard ++ p.waiting)
    (hp : p.strand place = s.strand place d j) (hq : q.strand place = s.strand place d' j')
    (hj : j ≤ d) (hd : d ≤ s.reported j) (hj' : j' ≤ d') (hd' : d' ≤ s.reported j') : j' = d := by
  have hbefore := congrArg (fun x : Strand => x.heard.length + x.waiting.length) hp
  have hafter := congrArg (fun x : Strand => x.heard.length) hq
  have hlen := s.reported_le place j
  have hlen' := s.reported_le place j'
  simp only [strand, Script.strand, hrun, List.length_map, List.length_take, List.length_drop,
    List.filter_append, List.length_append] at hbefore hafter
  omega

/-- In a round every handler hears what was taken in for it, and all that is reported then is taken
in. -/
theorem Abreast.round (h : Abreast s n d j ⟨rig.agent, heard⟩) (hn : n < 2 ^ 31)
    (running : rig.finished = none) :
    let next := (AgentRig.round rig).2
    next = { rig with agent := next.agent } ∧ ∃ heard',
      (∃ moves, (⟨rig.agent, heard⟩ : Interplay).play moves = some ⟨next.agent, heard'⟩) ∧
      Abreast s n (s.reported d) d ⟨next.agent, heard'⟩ := by
  intro next
  have hrun := play_runTasks h.woven.wired.flat
  obtain ⟨hran, -⟩ := h.woven.play hn hrun
  have hrunning : rig.run.2.finished = none := running
  have hnext : next = { rig with agent := next.agent } := by
    change (rig.run.2.forward none).2 = { rig with agent := (rig.run.2.forward none).2.agent }
    rw [AgentRig.forward_running hrunning]
    rfl
  obtain ⟨hempty, hforward⟩ := play_forward hrunning hran.wired.context hran.wired.outbox
    (heard ++ rig.agent.deliveries)
  obtain ⟨hmoved, -⟩ := hran.play hn hforward
  refine ⟨hnext, heard ++ rig.agent.deliveries, ⟨_, play_trans hrun hforward⟩, hmoved, ?_,
    Nat.le_refl _, ?_⟩
  · exact Nat.le_trans h.reported (s.reported_le_reported h.heard)
  · intro place hplace
    obtain ⟨d', j', hj', hd', hstrand⟩ := hmoved.strands place hplace
    have hbefore := h.strands place hplace
    have hheard : j' = d :=
      heard_of_run rfl hbefore hstrand h.heard h.reported hj' hd'
    have hall : (s.strand place d' j').coming = [] := by
      rw [← hstrand]
      simp [strand, events, hempty]
    have hreported : d' = s.reported j' :=
      Nat.le_antisymm hd' (Script.coming_eq_nil_iff.mp hall)
    rw [hreported, hheard] at hstrand
    exact hstrand

theorem Abreast.rounds (h : Abreast s n d j ⟨rig.agent, heard⟩) (hn : n < 2 ^ 31)
    (running : rig.finished = none) (k : Nat) :
    let next := (fun rig => (AgentRig.round rig).2)^[k + 1] rig
    next = { rig with agent := next.agent } ∧ ∃ heard',
      (∃ moves, (⟨rig.agent, heard⟩ : Interplay).play moves = some ⟨next.agent, heard'⟩) ∧
      Abreast s n (s.reported^[k + 1] d) (s.reported^[k] d) ⟨next.agent, heard'⟩ := by
  induction k with
  | zero => exact h.round hn running
  | succ k ih =>
    obtain ⟨hsame, heard', ⟨moves, hmoves⟩, habreast⟩ := ih
    have hrunning := (congrArg AgentRig.finished hsame).trans running
    obtain ⟨hnext, heard'', ⟨more, hmore⟩, hround⟩ := habreast.round hn hrunning
    have hframe := fun a : Agent => congrArg (fun rig : AgentRig => { rig with agent := a }) hsame
    rw [Function.iterate_succ_apply' _ (k + 1), Function.iterate_succ_apply' s.reported (k + 1)]
    exact ⟨hnext.trans (hframe _), heard'', ⟨moves ++ more, play_trans hmoves hmore⟩, hround⟩

/-- A pump after the opening of the sessions is an interplay that leaves them at rest, at their ends,
in the state in which all other interplays come to rest too. -/
theorem pump_comes_to_rest (s : Script) (hn : n < 2 ^ 31) (tracker : Tracker) (service : Service) :
    let rig := AgentRig.launch n s.closeAfter (.idle s.reports tracker service)
    let pumped := (rig.step .pump).2
    rig.opened = .ok () ∧ pumped = { rig with agent := pumped.agent } ∧ ∃ heard,
      (∃ moves, (⟨rig.agent, []⟩ : Interplay).play moves = some ⟨pumped.agent, heard⟩) ∧
      AtRest ⟨pumped.agent, heard⟩ ∧ Finished s n ⟨pumped.agent, heard⟩ ∧
      ∀ moves p, (⟨rig.agent, []⟩ : Interplay).play moves = some p → p.AtRest →
        p = ⟨pumped.agent, heard⟩ := by
  intro rig pumped
  have hopened := openSessions_idle s tracker service hn
  have hagent : rig.agent = (Agent.idle s.reports tracker service).opened s n :=
    congrArg Prod.snd hopened
  have hstart : Abreast s n 0 0 ⟨rig.agent, []⟩ := by
    rw [hagent]
    exact abreast_opened hn tracker service
  -- the fourth round lets the handlers hear of the close
  obtain ⟨hsame, heard, ⟨moves, hmoves⟩, habreast⟩ := hstart.rounds hn rfl 3
  let rested := (fun rig => (AgentRig.round rig).2)^[4] rig
  have hrest : AtRest ⟨rested.agent, heard⟩ :=
    habreast.atRest fun place => Nat.le_of_eq (s.reported_thrice place).symm
  have hpumped : pumped = rested := by
    have hall : pumped = (fun rig => (AgentRig.round rig).2)^[manyRounds - 4 + 4] rig :=
      repeatRounds_eq_iterate AgentRig.round_idle manyRounds 0 rig
    rw [hall, Function.iterate_add_apply]
    exact Function.iterate_fixed hrest.round _
  have hends := habreast.woven.finished hrest
  rw [hpumped]
  refine ⟨congrArg Prod.fst hopened, hsame, heard, ⟨moves, hmoves⟩, hrest, hends, ?_⟩
  intro moves' p hplay hrest'
  exact hstart.woven.rest_unique hn hmoves hrest hplay hrest'

end Interplay

end Rangelink
