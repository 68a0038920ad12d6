import Rangelink.Proofs.Agent.Interplay
import Rangelink.Proofs.Agent.Script
import Rangelink.Proofs.Ranging.Lease

/-! # An interplay as strands woven together

A move takes the front of one queue and belongs to one session. Seen from that
session it is a move of its strand, and the strands of all other sessions stay as
they are.
-/
namespace Rangelink

/-- A station without what events and commands change. -/
def Station.bare (st : Station Nat Unit) : Station Nat Unit :=
  { st with registry := {}, adapter.calls := [], adapter.outbox := none }

/-- An agent without what events and jobs change. -/
def Agent.bare (a : Agent) : Agent :=
  { a with station := a.station.bare, executor := {}, handlers := [] }

/-- The command that a call gives under a handle, if it does. -/
def AdapterCall.command? (h : Handle) : AdapterCall → Option SessionCommand
  | .openSession _ => none
  | .command h' c => if h' = h then some c else none

namespace Interplay

def registry (p : Interplay) : Registry Nat Unit := p.agent.station.registry

def calls (p : Interplay) : List AdapterCall := p.agent.station.adapter.calls

def events (p : Interplay) : List RangingEvent := p.agent.station.adapter.outbox.getD []

def waiting (p : Interplay) : List (Delivery Nat Unit) := p.agent.deliveries

/-- What belongs to the session in a place. -/
def strand (place : Nat) (p : Interplay) : Strand where
  coming := (p.events.filter fun e => decide (e.handle = .nth place)).map (·.occurrence)
  entry := p.registry.sessions.get? (.nth place)
  waiting := (p.waiting.filter fun d => decide (d.client = place)).map (·.notice)
  heard := (p.heard.filter fun d => decide (d.client = place)).map (·.notice)
  handler := p.agent.handlers[place]?
  ended := p.registry.ended.contains place
  calls := p.calls.filterMap (·.command? (.nth place))

/-- Events are kept for the agent, which takes them in, nothing is refused, and every job gives a
notice to a handler. -/
structure Wired (p : Interplay) : Prop where
  context : p.agent.station.context = Agent.context
  unrefused : p.agent.station.refusals = {}
  outbox : p.agent.station.adapter.outbox = some p.events
  queue : p.agent.executor.queue = p.waiting.map fun d => .single (.give d)

/-- All that the delivery of an event does. -/
structure Delivers (event : RangingEvent) (p p' : Interplay) : Prop where
  events : p.events = event :: p'.events
  registry : p'.registry = (p.registry.receive event).1
  waiting : p'.waiting = p.waiting ++ (p.registry.receive event).2.toList
  heard : p'.heard = p.heard
  handlers : p'.agent.handlers = p.agent.handlers
  calls : p'.calls = p.calls
  bare : p'.agent.bare = p.agent.bare
  wired : p'.Wired

/-- All that the run of a job does, `h` being the handler of its notice. -/
structure Runs (d : Delivery Nat Unit) (h : RangingHandler) (p p' : Interplay) : Prop where
  waiting : p.waiting = d :: p'.waiting
  heard : p'.heard = p.heard ++ [d]
  handlers : p'.agent.handlers = p.agent.handlers.set d.client (h.hear d.notice).1
  bare : p'.agent.bare = p.agent.bare
  wired : p'.Wired
  station : p'.agent.station =
    ((h.hear d.notice).2.map fun order => (p.agent.station.command order.1 order.2).2).getD
      p.agent.station

section Moves
variable {p p' : Interplay} {event : RangingEvent}

theorem outbox_eq_events {es : List RangingEvent}
    (h : p.agent.station.adapter.outbox = some es) :
    p.agent.station.adapter.outbox = some p.events := by
  rw [events, h]
  rfl

theorem deliveries_of_queue {a : Agent} {ds : List (Delivery Nat Unit)}
    (h : a.executor.queue = ds.map fun d => .single (.give d)) : a.deliveries = ds := by
  rw [Agent.deliveries, Executor.actions, h]
  simp [List.filterMap_map, Function.comp_def, Job.single, Job.action, AgentTask.delivery?]

theorem Wired.deliver (hw : p.Wired) {rest : List RangingEvent} (he : p.events = event :: rest) :
    ∃ p', p.deliver = some p' ∧ Delivers event p p' := by
  have houtbox := hw.outbox
  rw [he] at houtbox
  have hqueue := hw.queue
  refine ⟨_, deliver_event hw.context houtbox, ?_⟩
  cases hd : (p.agent.station.registry.receive event).2 with
  | none =>
    refine ⟨he, rfl, ?_, rfl, rfl, rfl, rfl, hw.context, hw.unrefused, rfl, hqueue⟩
    rw [registry, hd]
    exact (List.append_nil _).symm
  | some d =>
    have hqueue' : (p.agent.executor.submit (.single (.give d))).queue =
        (p.waiting ++ [d]).map fun d => .single (.give d) := by
      rw [Executor.submit, hqueue, List.map_append]
      rfl
    have hwaiting := deliveries_of_queue (a := Agent.submit (some (.give d))
      { p.agent with
        station.adapter.outbox := some rest
        station.registry := (p.agent.station.registry.receive event).1 }) hqueue'
    refine ⟨he, rfl, ?_, rfl, rfl, rfl, rfl, hw.context, hw.unrefused, rfl, ?_⟩
    · rw [registry, hd]
      exact hwaiting
    · exact hqueue'.trans (congrArg _ hwaiting.symm)

/-- A command reaches the adapter unless its session is closed. -/
theorem station_command (hw : p.Wired) (t : Session) (c : SessionCommand) :
    (p.agent.station.command t c).2 =
      if p.registry.isClosed t then p.agent.station
      else
        { p.agent.station with
          registry := p.registry.afterCommand t c
          adapter := p.agent.station.adapter.command t.handle c } := by
  have hinstruct : p.agent.station.instruct t.handle c =
      (.ok (), { p.agent.station with adapter := p.agent.station.adapter.command t.handle c }) := by
    have hnext : p.agent.station.refusals.next c.verb = (none, p.agent.station.refusals) := by
      rw [hw.unrefused]
      rfl
    simp only [Station.instruct, hnext]
  simp only [Station.command, Registry.command, hinstruct]
  change _ = if p.agent.station.registry.isClosed t then _ else _
  split <;> rfl

theorem perform_give {a : Agent} {d : Delivery Nat Unit} {h : RangingHandler}
    (hh : a.handlers[d.client]? = some h) :
    a.perform (.give d) =
      { a with
        handlers := a.handlers.set d.client (h.hear d.notice).1
        station := ((h.hear d.notice).2.map fun order => (a.station.command order.1 order.2).2).getD
          a.station } := by
  simp only [Agent.perform, hh]
  rcases h.hear d.notice with ⟨h', _ | order⟩ <;> rfl

theorem station_order (hw : p.Wired) (order : Option (Session × SessionCommand)) :
    let st := (order.map fun o => (p.agent.station.command o.1 o.2).2).getD p.agent.station
    st.bare = p.agent.station.bare ∧ ∃ events, st.adapter.outbox = some events := by
  cases order with
  | none => exact ⟨rfl, _, hw.outbox⟩
  | some o =>
    simp only [Option.map_some, Option.getD_some, station_command hw]
    split
    · exact ⟨rfl, _, hw.outbox⟩
    · refine ⟨rfl,
        p.events ++ Adapter.response p.agent.station.adapter.reportsPerStart o.1.handle o.2, ?_⟩
      simp [Adapter.command, Adapter.push, Adapter.record, hw.outbox]

theorem Wired.run (hw : p.Wired) {d : Delivery Nat Unit} {rest : List (Delivery Nat Unit)}
    {h : RangingHandler} (hd : p.waiting = d :: rest) (hh : p.agent.handlers[d.client]? = some h) :
    ∃ p', p.run = some p' ∧ Runs d h p p' := by
  have hqueue := hw.queue
  rw [hd, List.map_cons] at hqueue
  have hrun := run_single hqueue
  rw [perform_give hh] at hrun
  obtain ⟨hbare, events, houtbox⟩ := station_order hw (h.hear d.notice).2
  have hcontext := congrArg Station.context hbare
  have hrefusals := congrArg Station.refusals hbare
  have hleft : ∀ a : Agent, a.executor = ⟨rest.map fun d => .single (.give d)⟩ →
      a.deliveries = rest := fun a ha => deliveries_of_queue (by rw [ha])
  refine ⟨_, hrun, ?_, rfl, rfl, ?_,
    ⟨hcontext.trans hw.context, hrefusals.trans hw.unrefused, ?_, ?_⟩, rfl⟩
  · rw [hd, waiting, hleft _ rfl]
  · simp only [Agent.bare]
    rw [hbare]
  · exact outbox_eq_events houtbox
  · rw [waiting, hleft _ rfl]

end Moves

section Orders
variable {p p' : Interplay} {d : Delivery Nat Unit} {h : RangingHandler}

/-- The handler gives no command, or one on a closed session, or one that reaches the adapter. -/
theorem Runs.order_cases (hr : Runs d h p p') (hw : p.Wired) :
    (((h.hear d.notice).2 = none ∨
          ∃ t c, (h.hear d.notice).2 = some (t, c) ∧ p.registry.isClosed t = true) ∧
        p'.registry = p.registry ∧ p'.events = p.events ∧ p'.calls = p.calls) ∨
      ∃ t c, (h.hear d.notice).2 = some (t, c) ∧ p.registry.isClosed t = false ∧
        p'.registry = p.registry.afterCommand t c ∧
        p'.events =
          p.events ++ Adapter.response p.agent.station.adapter.reportsPerStart t.handle c ∧
        p'.calls = p.calls ++ [.command t.handle c] := by
  have hstation := hr.station
  cases horder : (h.hear d.notice).2 with
  | none =>
    rw [horder, Option.map_none, Option.getD_none] at hstation
    refine Or.inl ⟨Or.inl rfl, ?_⟩
    simp only [registry, events, calls, hstation]
    exact ⟨trivial, trivial, trivial⟩
  | some order =>
    obtain ⟨t, c⟩ := order
    rw [horder, Option.map_some, Option.getD_some, station_command hw] at hstation
    cases hclosed : p.registry.isClosed t with
    | true =>
      rw [hclosed, if_pos rfl] at hstation
      refine Or.inl ⟨Or.inr ⟨t, c, rfl, hclosed⟩, ?_⟩
      simp only [registry, events, calls, hstation]
      exact ⟨trivial, trivial, trivial⟩
    | false =>
      rw [hclosed, if_neg Bool.false_ne_true] at hstation
      refine Or.inr ⟨t, c, rfl, hclosed, ?_, ?_, ?_⟩
      · rw [registry, hstation]
      · rw [events, hstation]
        simp [Adapter.command, Adapter.push, Adapter.record, hw.outbox]
      · rw [calls, hstation]
        rfl

theorem sessions_afterCommand (t : Session) (c : SessionCommand) (r : Registry Nat Unit) :
    (r.afterCommand t c).sessions = r.sessions ∧ (r.afterCommand t c).issued = r.issued := by
  cases c <;> exact ⟨rfl, rfl⟩

theorem mem_ended_afterCommand {lease : Nat} {t : Session} {c : SessionCommand}
    {r : Registry Nat Unit} :
    lease ∈ (r.afterCommand t c).ended ↔ lease ∈ r.ended ∨ (c = .close ∧ lease = t.lease) := by
  cases c <;> simp [Registry.afterCommand, Registry.endLease, or_comm]

theorem handle_of_response {reports : Nat} {handle : Handle} {c : SessionCommand}
    {event : RangingEvent} (he : event ∈ Adapter.response reports handle c) :
    event.handle = handle ∧ event.occurrence ≠ .opened := by
  cases c with
  | start params =>
    rcases List.mem_cons.mp he with rfl | he
    · exact ⟨rfl, nofun⟩
    · obtain ⟨i, -, rfl⟩ := List.mem_map.mp he
      exact ⟨rfl, nofun⟩
  | reconfigure params =>
    rw [List.mem_singleton.mp he]
    exact ⟨rfl, nofun⟩
  | stop =>
    rw [List.mem_singleton.mp he]
    exact ⟨rfl, nofun⟩
  | close =>
    rw [List.mem_singleton.mp he]
    exact ⟨rfl, nofun⟩

/-- What the commands of the session in a place can do and what they leave alone. -/
structure Commands (i : Nat) (p p' : Interplay) : Prop where
  sessions : p'.registry.sessions = p.registry.sessions
  issued : p'.registry.issued = p.registry.issued
  events : ∃ more, p'.events = p.events ++ more ∧
    ∀ e ∈ more, e.handle = .nth i ∧ e.occurrence ≠ .opened
  calls : ∃ more : List SessionCommand, p'.calls = p.calls ++ more.map (.command (.nth i))

theorem Runs.commands (hr : Runs d h p p') (hw : p.Wired) {i : Nat}
    (horder : ∀ t c, (h.hear d.notice).2 = some (t, c) → t = .nth i) : Commands i p p' := by
  rcases hr.order_cases hw with ⟨-, hregistry, hevents, hcalls⟩ |
    ⟨t, c, hc, -, hregistry, hevents, hcalls⟩
  · refine ⟨by rw [hregistry], by rw [hregistry], ⟨[], ?_, ?_⟩, ⟨[], ?_⟩⟩
    · rw [hevents, List.append_nil]
    · intro e he
      exact absurd he List.not_mem_nil
    · rw [hcalls, List.map_nil, List.append_nil]
  · rw [horder t c hc] at hregistry hevents hcalls
    obtain ⟨hsessions, hissued⟩ := sessions_afterCommand (.nth i) c p.registry
    exact ⟨by rw [hregistry, hsessions], by rw [hregistry, hissued],
      ⟨_, hevents, fun e he => handle_of_response he⟩, ⟨[c], hcalls⟩⟩

end Orders

section Strands
variable {p p' : Interplay} {i : Nat} {o : Occurrence} {e : SessionEntry Nat Unit}

/-- A session is told of an occurrence under its handle as the session in its place, if it is opened
in that place. -/
theorem receive_nth {r : Registry Nat Unit} (he : r.sessions.get? (.nth i) = some e)
    (hclient : e.client = i) (hfresh : o = .opened → r.issued = i) :
    (r.receive ⟨.nth i, o⟩).2 = (o.notice? (some e.phase) (.nth i)).map (Delivery.mk () i) ∧
      ∀ h, (r.receive ⟨.nth i, o⟩).1.sessions.get? h =
        if .nth i = h then e.after i o else r.sessions.get? h := by
  have hsession : o.notice? (some e.phase) ⟨.nth i, r.issued⟩ =
      o.notice? (some e.phase) (.nth i) := by
    by_cases ho : o = .opened
    · rw [hfresh ho]
      rfl
    · cases o <;> first | rfl | exact absurd rfl ho
  have hafter : e.after r.issued o = e.after i o := by
    by_cases ho : o = .opened
    · rw [hfresh ho]
    · cases o <;> first | rfl | exact absurd rfl ho
  constructor
  · rw [Registry.receive, Registry.handle_told, Registry.owner?, Registry.phase?, he]
    simp only [Option.map_some, Option.bind_some, hsession, hclient]
  · intro h
    rw [Registry.receive, Registry.get?_handle, he, Option.bind_some, hafter]

theorem Delivers.strand_eq (h : Delivers ⟨.nth i, o⟩ p p') (hi : i < 2 ^ 31)
    (he : p.registry.sessions.get? (.nth i) = some e) (hclient : e.client = i)
    (hlease : ∀ lease, e.lease = some lease → lease = i)
    (hfresh : o = .opened → p.registry.issued = i) {place : Nat} (hplace : place < 2 ^ 31) :
    p'.strand place = if place = i then (p.strand i).deliver i else p.strand place := by
  obtain ⟨htold, hentry⟩ := receive_nth he hclient hfresh
  have hended : p'.registry.ended.contains place =
      (p.registry.ended.contains place || (o.isClosing && decide (e.lease = some place))) := by
    rw [h.registry, Bool.eq_iff_iff]
    simp [Registry.receive, Registry.mem_ended_handle, Registry.lease?, he]
  have hentry' : p'.registry.sessions.get? (.nth place) =
      if .nth i = Handle.nth place then e.after i o else p.registry.sessions.get? (.nth place) := by
    rw [h.registry]
    exact hentry _
  have hwaiting : (p'.strand place).waiting = (p.strand place).waiting ++
      if place = i then (o.notice? (some e.phase) (.nth i)).toList else [] := by
    simp only [strand]
    rw [h.waiting, htold, List.filter_append, List.map_append]
    congr 1
    cases o.notice? (some e.phase) (.nth i) with
    | none => split <;> rfl
    | some notice => split <;> simp_all [eq_comm]
  split
  · rename_i hsame
    subst hsame
    have hcoming : (p.strand place).coming = o :: (p'.strand place).coming := by
      simp [strand, h.events]
    have hfound : (p.strand place).entry = some e := he
    rw [if_pos rfl] at hentry' hwaiting
    simp only [Strand.deliver, hcoming, hfound]
    rw [← hwaiting]
    simp only [strand, hended, hentry', h.heard, h.handlers, h.calls]
  · rename_i hother
    have hne : Handle.nth i ≠ .nth place := by
      rw [Ne, Handle.nth_inj hi hplace]
      exact fun h => hother h.symm
    have hcoming : (p'.strand place).coming = (p.strand place).coming := by
      simp [strand, h.events, hne]
    have hkept : ¬ e.lease = some place := fun hl => hother (hlease place hl)
    rw [if_neg hne] at hentry'
    rw [if_neg hother, List.append_nil] at hwaiting
    calc p'.strand place
        _ = { p.strand place with
              coming := (p'.strand place).coming, waiting := (p'.strand place).waiting } := by
          simp [strand, hended, hentry', h.heard, h.handlers, h.calls, hkept]
        _ = p.strand place := by rw [hcoming, hwaiting]

/-- A command that reaches the adapter belongs to the strand of its session. -/
theorem strand_of_command {t : Session} {c : SessionCommand} (ht : t = .nth i) (hi : i < 2 ^ 31)
    (hregistry : p'.registry = p.registry.afterCommand t c)
    (hevents : p'.events =
      p.events ++ Adapter.response p.agent.station.adapter.reportsPerStart t.handle c)
    (hcalls : p'.calls = p.calls ++ [.command t.handle c]) {place : Nat} (hplace : place < 2 ^ 31) :
    p'.strand place =
      { p'.strand place with
        coming := (p.strand place).coming ++
          if place = i then
            (Adapter.response p.agent.station.adapter.reportsPerStart (.nth i) c).map (·.occurrence)
          else []
        entry := (p.strand place).entry
        ended := (p.strand place).ended || decide (c = .close ∧ place = i)
        calls := (p.strand place).calls ++ if place = i then [c] else [] } := by
  subst ht
  have hhandle : (Session.nth i).handle = .nth i := rfl
  have hended : p'.registry.ended.contains place =
      (p.registry.ended.contains place || decide (c = .close ∧ place = i)) := by
    rw [hregistry, Bool.eq_iff_iff]
    simp [mem_ended_afterCommand, Session.nth]
  have hcoming : (Adapter.response p.agent.station.adapter.reportsPerStart (.nth i) c).filter
      (fun e => decide (e.handle = .nth place)) =
        if place = i then Adapter.response p.agent.station.adapter.reportsPerStart (.nth i) c
        else [] := by
    split
    · rename_i hown
      rw [List.filter_eq_self]
      intro e he
      rw [hown, (handle_of_response he).1]
      exact decide_eq_true rfl
    · rename_i hother
      rw [List.filter_eq_nil_iff]
      intro e he
      rw [(handle_of_response he).1, decide_eq_true_eq, Handle.nth_inj hi hplace]
      exact fun h => hother h.symm
  have hcall : [AdapterCall.command (.nth i) c].filterMap (·.command? (.nth place)) =
      if place = i then [c] else [] := by
    split
    · rename_i hown
      simp [AdapterCall.command?, hown]
    · rename_i hother
      have hne : Handle.nth i ≠ .nth place := by
        rw [Ne, Handle.nth_inj hi hplace]
        exact fun h => hother h.symm
      simp [AdapterCall.command?, hne]
  have hentry : p'.registry.sessions = p.registry.sessions := by
    rw [hregistry]
    exact (sessions_afterCommand _ _ _).1
  simp only [strand, hentry, hended, hevents, hcalls, hhandle, List.filter_append, hcoming,
    List.filterMap_append, hcall, List.map_append, apply_ite (List.map _), List.map_nil]

/-- A notice is heard in the strand of its session. -/
theorem Runs.strand_parts {d : Delivery Nat Unit} {h : RangingHandler} (hr : Runs d h p p')
    (hh : p.agent.handlers[d.client]? = some h) (place : Nat) :
    (p.strand place).waiting =
        (if place = d.client then [d.notice] else []) ++ (p'.strand place).waiting ∧
      (p'.strand place).heard =
        (p.strand place).heard ++ (if place = d.client then [d.notice] else []) ∧
      (p'.strand place).handler =
        if place = d.client then some (h.hear d.notice).1 else (p.strand place).handler := by
  refine ⟨?_, ?_, ?_⟩
  · simp only [strand]
    rw [hr.waiting, List.filter_cons]
    split <;> simp_all [eq_comm]
  · simp only [strand]
    rw [hr.heard, List.filter_append, List.map_append]
    split <;> simp_all [eq_comm]
  · obtain ⟨hlt, -⟩ := List.getElem?_eq_some_iff.mp hh
    simp only [strand]
    rw [hr.handlers, List.getElem?_set]
    simp only [eq_comm, hlt, if_true]

/-- A job is a move of the strand of its handler, which commands its own session only. -/
theorem Runs.strand_eq {d : Delivery Nat Unit} {h : RangingHandler} (hr : Runs d h p p')
    (hw : p.Wired) (hh : p.agent.handlers[d.client]? = some h) (hi : d.client < 2 ^ 31)
    (horder : ∀ t c, (h.hear d.notice).2 = some (t, c) → t = .nth d.client) {place : Nat}
    (hplace : place < 2 ^ 31) :
    p'.strand place =
      if place = d.client then
        (p.strand place).run p.agent.station.adapter.reportsPerStart place
      else p.strand place := by
  obtain ⟨hwaiting, hheard, hhandler⟩ := hr.strand_parts hh place
  have hkept : p'.registry = p.registry → p'.events = p.events → p'.calls = p.calls →
      p'.strand place =
        { p.strand place with
          waiting := (p'.strand place).waiting
          heard := (p'.strand place).heard
          handler := (p'.strand place).handler } := by
    intro hregistry hevents hcalls
    simp [strand, hregistry, hevents, hcalls]
  split
  · rename_i hown
    subst hown
    rw [if_pos rfl] at hheard hwaiting hhandler
    rw [List.singleton_append] at hwaiting
    have hfound : (p.strand d.client).handler = some h := hh
    simp only [Strand.run, hwaiting, hfound]
    rw [← hheard, ← hhandler]
    -- a command that the strand refuses is one on a session that the registry has closed
    rcases hr.order_cases hw with ⟨hidle, hregistry, hevents, hcalls⟩ |
      ⟨t, c, hc, hopen, hregistry, hevents, hcalls⟩
    · rw [hkept hregistry hevents hcalls]
      rcases hidle with hnone | ⟨t, c, hc, hclosed⟩
      · rw [hnone]
        rfl
      · have hended : (p.strand d.client).ended = true := by
          rw [horder t c hc] at hclosed
          exact hclosed
        rw [hc]
        simp only [Option.map_some, Strand.obey, hended, if_true]
    · have hended : (p.strand d.client).ended = false := by
        rw [horder t c hc] at hopen
        exact hopen
      rw [strand_of_command (horder t c hc) hi hregistry hevents hcalls hplace, hc]
      simp only [Option.map_some, Strand.obey, hended, if_true, and_true, Bool.false_or,
        Bool.false_eq_true, if_false]
  · rename_i hother
    rw [if_neg hother] at hheard hwaiting hhandler
    rw [List.append_nil] at hheard
    rw [List.nil_append] at hwaiting
    rcases hr.order_cases hw with ⟨-, hregistry, hevents, hcalls⟩ |
      ⟨t, c, hc, -, hregistry, hevents, hcalls⟩
    · rw [hkept hregistry hevents hcalls, hheard, ← hwaiting, hhandler]
    · rw [strand_of_command (horder t c hc) hi hregistry hevents hcalls hplace]
      simp only [hother, if_false, and_false, decide_false, Bool.or_false, List.append_nil]
      rw [hheard, ← hwaiting, hhandler]

end Strands

end Interplay

end Rangelink
