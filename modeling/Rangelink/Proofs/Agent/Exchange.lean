import Rangelink.Proofs.Agent.Sessions

/-! # Moves in either order

Where an event is to be delivered and a job to be run, the two moves can be made
in either order, with the same result.
-/
namespace Rangelink

namespace Registry
variable {κ ε : Type}

/-- Events take no notice of the leases that have ended. -/
theorem handle_endLease (lease : Nat) (h : Handle) (o : Occurrence) (r : Registry κ ε) :
    (r.endLease lease).handle h o = ((r.handle h o).1.endLease lease, (r.handle h o).2) := by
  cases he : r.sessions.get? h with
  | none =>
    have hnone : r.owner? h = none := owner?_eq_none_iff.mpr he
    have hnone' : (r.endLease lease).owner? h = none := hnone
    rw [handle_unowned hnone, handle_unowned hnone']
  | some e =>
    have he' : (r.endLease lease).sessions.get? h = some e := he
    refine Prod.ext ?_ ?_
    · rw [handle_of_entry he', handle_of_entry he]
      cases (if o.isClosing then e.lease else none) with
      | none => rfl
      | some own =>
        have hinsert : (r.ended.insert lease).insert own = (r.ended.insert own).insert lease := by
          ext other
          simp only [SortedSet.mem_insert, or_left_comm]
        simp only [endLease, Option.elim_some, hinsert]
    · rw [handle_told, handle_told]
      rfl

theorem receive_afterCommand (t : Session) (c : SessionCommand) (event : RangingEvent)
    (r : Registry κ ε) :
    (r.afterCommand t c).receive event =
      ((r.receive event).1.afterCommand t c, (r.receive event).2) := by
  cases c with
  | start params => rfl
  | reconfigure params => rfl
  | stop => rfl
  | close => exact handle_endLease t.lease event.handle event.occurrence r

end Registry

namespace Interplay
variable {s : Script} {n : Nat} {p p' q q' : Interplay}

/-- An interplay is all that its moves change, and the rest. -/
theorem Wired.eq_parts (hw : p.Wired) :
    p =
      { agent :=
          { p.agent.bare with
            station.registry := p.registry
            station.adapter.calls := p.calls
            station.adapter.outbox := some p.events
            executor := ⟨p.waiting.map fun d => .single (.give d)⟩
            handlers := p.agent.handlers }
        heard := p.heard } := by
  rw [← hw.outbox, ← hw.queue]
  rfl

theorem Wired.eq (hw : p.Wired) (hw' : p'.Wired) (hbare : p.agent.bare = p'.agent.bare)
    (hregistry : p.registry = p'.registry) (hcalls : p.calls = p'.calls)
    (hevents : p.events = p'.events) (hwaiting : p.waiting = p'.waiting)
    (hhandlers : p.agent.handlers = p'.agent.handlers) (hheard : p.heard = p'.heard) : p = p' := by
  rw [hw.eq_parts, hw'.eq_parts, hbare, hregistry, hcalls, hevents, hwaiting, hhandlers, hheard]

/-- A handler that keeps to its script gives no command on a closed session. -/
theorem Woven.isClosed_order (h : Woven s n p) {d : Delivery Nat Unit} {handler : RangingHandler}
    (hh : p.agent.handlers[d.client]? = some handler) (hr : Runs d handler p p') {t : Session}
    {c : SessionCommand} (hc : (handler.hear d.notice).2 = some (t, c)) :
    p.registry.isClosed t = false := by
  obtain ⟨seen, j, o, -, -, -, hstrand, hcourse⟩ := h.next_notice hr.waiting
  have hhandler : handler = s.handler d.client j :=
    Option.some.inj (hh.symm.trans (congrArg Strand.handler hstrand))
  rw [hhandler, Script.hear_course hcourse] at hc
  obtain ⟨c', hanswer, hpair⟩ := Option.map_eq_some_iff.mp hc
  obtain ⟨rfl, -⟩ := Prod.mk.inj hpair
  have hended : p.registry.isClosed (.nth d.client) = decide (s.Ordered j) :=
    congrArg Strand.ended hstrand
  rw [hended]
  exact decide_eq_false (Script.ordered_of_answer_some hanswer).1

/-- What the run of a job does to the registry and the adapter depends on the handler only. -/
theorem Woven.runs_order (h : Woven s n p) {d : Delivery Nat Unit} {handler : RangingHandler}
    (hh : p.agent.handlers[d.client]? = some handler) (hr : Runs d handler p p') :
    p'.registry =
        ((handler.hear d.notice).2.elim p.registry fun order =>
          p.registry.afterCommand order.1 order.2) ∧
      p'.events = p.events ++
        ((handler.hear d.notice).2.elim [] fun order =>
          Adapter.response s.reports order.1.handle order.2) ∧
      p'.calls = p.calls ++
        ((handler.hear d.notice).2.elim [] fun order => [.command order.1.handle order.2]) := by
  rcases hr.order_cases h.wired with ⟨hidle, hregistry, hevents, hcalls⟩ |
    ⟨t, c, hc, -, hregistry, hevents, hcalls⟩
  · rcases hidle with hnone | ⟨t, c, hc, hclosed⟩
    · simp only [hnone, hregistry, hevents, hcalls, Option.elim_none, List.append_nil, and_self]
    · rw [h.isClosed_order hh hr hc] at hclosed
      cases hclosed
  · rw [h.reports] at hevents
    simp only [hc, hregistry, hevents, hcalls, Option.elim_some, and_self]

/-- A delivery takes from the front of one queue and adds to the end of the other, and a run the other
way round, so that neither hinders the other. -/
theorem Woven.exchange (h : Woven s n p) (hn : n < 2 ^ 31) (hq : p.deliver = some q)
    (hq' : p.run = some q') : ∃ r, q.run = some r ∧ q'.deliver = some r := by
  obtain ⟨event, hd⟩ := h.delivers_of_deliver hq
  obtain ⟨d, handler, hh, hr⟩ := h.runs_of_run hq'
  have hwoven := (h.delivers hn hd).1
  have hwoven' := (h.runs hn hh hr).1
  obtain ⟨hregistry, hevents, hcalls⟩ := h.runs_order hh hr
  have hh₂ : q.agent.handlers[d.client]? = some handler := by
    rw [hd.handlers]
    exact hh
  have hwaiting : q.waiting = d :: (q'.waiting ++ (p.registry.receive event).2.toList) := by
    rw [hd.waiting, hr.waiting]
    rfl
  rw [hd.events, List.cons_append] at hevents
  obtain ⟨r, hrun, hr₂⟩ := hwoven.wired.run hwaiting hh₂
  obtain ⟨r', hdeliver, hd₂⟩ := hwoven'.wired.deliver hevents
  obtain ⟨hregistry₂, hevents₂, hcalls₂⟩ := hwoven.runs_order hh₂ hr₂
  have hreceive : q'.registry.receive event = (r.registry, (p.registry.receive event).2) := by
    rw [hregistry, hregistry₂, hd.registry]
    cases (handler.hear d.notice).2 with
    | none => rfl
    | some order => exact Registry.receive_afterCommand order.1 order.2 event p.registry
  have hsame : r' = r := by
    refine hd₂.wired.eq hr₂.wired ?_ ?_ ?_ ?_ ?_ ?_ ?_
    · rw [hd₂.bare, hr.bare, hr₂.bare, hd.bare]
    · rw [hd₂.registry, hreceive]
    · rw [hd₂.calls, hcalls, hcalls₂, hd.calls]
    · rw [hevents₂]
      exact (List.cons.inj (hd₂.events.symm.trans hevents)).2
    · rw [hd₂.waiting, hreceive]
      exact (List.cons.inj (hwaiting.symm.trans hr₂.waiting)).2
    · rw [hd₂.handlers, hr.handlers, hr₂.handlers, hd.handlers]
    · rw [hd₂.heard, hr.heard, hr₂.heard, hd.heard]
  exact ⟨r, hrun, hsame ▸ hdeliver⟩

/-- Two moves from one state lead to the same state, or meet again after one move more. -/
theorem Woven.exchange_steps (h : Woven s n p) (hn : n < 2 ^ 31) {move move' : Move}
    (hq : p.step move = some q) (hq' : p.step move' = some q') :
    q = q' ∨ ∃ r next next', q.step next = some r ∧ q'.step next' = some r := by
  cases move with
  | deliver =>
    cases move' with
    | deliver => exact Or.inl (Option.some.inj (hq.symm.trans hq'))
    | run =>
      obtain ⟨r, hrun, hdeliver⟩ := h.exchange hn hq hq'
      exact Or.inr ⟨r, .run, .deliver, hrun, hdeliver⟩
  | run =>
    cases move' with
    | run => exact Or.inl (Option.some.inj (hq.symm.trans hq'))
    | deliver =>
      obtain ⟨r, hrun, hdeliver⟩ := h.exchange hn hq' hq
      exact Or.inr ⟨r, .deliver, .run, hdeliver, hrun⟩

end Interplay

end Rangelink
