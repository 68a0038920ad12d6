import Rangelink.Proofs.Agent.Exchange
import Rangelink.Proofs.Agent.Opened

/-! # Where sessions come to rest

An agent that opened sessions comes to rest in every interplay, with all scripts
played to their ends. The order of the moves shows in nothing, not even in the
order in which the commands of different sessions reached the adapter.
-/
namespace Rangelink.Interplay

/-- Every session has come to the end of its script, and nothing happened to any other. -/
structure Finished (s : Script) (n : Nat) (p : Interplay) : Prop where
  counted : p.agent.reports = List.replicate n s.reports
  heard : ∀ place, place < n → (p.strand place).heard =
    [.opened (.nth place), .started (Agent.sessionParams place)] ++
      (List.range s.reports).map (fun i => .report (Adapter.reportOf (.nth place) i)) ++
      if s.Closes then [.closed .localRequest .empty] else []
  opened : p.calls.filterMap (·.params?) = (List.range n).map Agent.sessionParams
  commanded : ∀ place, place < n → p.calls.filterMap (·.command? (.nth place)) =
    .start (Agent.sessionParams place) :: if s.Closes then [.close] else []
  phases : ∀ place, place < n →
    p.registry.phase? (.nth place) = if s.Closes then none else some .active
  others : ∀ h, (∀ place, place < n → h ≠ .nth place) →
    p.registry.isRegistered h = false ∧ p.calls.filterMap (·.command? h) = []

section Ends
variable {s : Script} {n : Nat} {p p' : Interplay}

theorem Woven.settles (h : Woven s n p) (hn : n < 2 ^ 31) :
    ∃ moves p', p.play moves = some p' ∧ p'.AtRest := by
  refine Woven.forward_induction hn ?_ h
  intro p h following
  by_cases hrest : p.AtRest
  · exact ⟨[], p, rfl, hrest⟩
  · obtain ⟨move, p₁, hstep⟩ := h.exists_step hrest
    obtain ⟨moves, p', hplay, hrest'⟩ := following move p₁ hstep
    exact ⟨move :: moves, p', Option.bind_eq_some_iff.mpr ⟨p₁, hstep, hplay⟩, hrest'⟩

/-- All plays that come to rest end in the same state. -/
theorem Woven.rest_unique (h : Woven s n p) (hn : n < 2 ^ 31) {moves moves' : List Move}
    {q q' : Interplay} (hq : p.play moves = some q) (hrest : q.AtRest)
    (hq' : p.play moves' = some q') (hrest' : q'.AtRest) : q' = q := by
  have all : ∀ moves moves' q q', p.play moves = some q → q.AtRest →
      p.play moves' = some q' → q'.AtRest → q' = q := by
    refine Woven.forward_induction hn ?_ h
    intro p h following moves moves' q q' hq hrest hq' hrest'
    cases moves with
    | nil =>
      obtain rfl := Option.some.inj hq
      exact h.play_atRest hrest hq'
    | cons move rest =>
      obtain ⟨p₁, hstep, hplay⟩ := Option.bind_eq_some_iff.mp hq
      cases moves' with
      | nil =>
        obtain rfl := Option.some.inj hq'
        exact (h.play_atRest hrest' hq).symm
      | cons move' rest' =>
        obtain ⟨p₂, hstep', hplay'⟩ := Option.bind_eq_some_iff.mp hq'
        rcases h.exchange_steps hn hstep hstep' with rfl | ⟨w, next, next', hw, hw'⟩
        · exact following move p₁ hstep rest rest' q q' hplay hrest hplay' hrest'
        · -- both ways can be continued from where they meet
          have hwoven := (((h.step hn hstep).1).step hn hw).1
          obtain ⟨more, r, hmore, hend⟩ := hwoven.settles hn
          have hone := following move p₁ hstep rest (next :: more) q r hplay hrest
            (Option.bind_eq_some_iff.mpr ⟨w, hw, hmore⟩) hend
          have hother := following move' p₂ hstep' rest' (next' :: more) q' r hplay' hrest'
            (Option.bind_eq_some_iff.mpr ⟨w, hw', hmore⟩) hend
          exact hother.symm.trans hone
  exact all moves moves' q q' hq hrest hq' hrest'

theorem Woven.strand_atRest (h : Woven s n p) (hrest : p.AtRest) {place : Nat}
    (hplace : place < n) :
    p.strand place = s.strand place (s.course place).length (s.course place).length := by
  obtain ⟨hevents, hwaiting⟩ := h.atRest_iff.mp hrest
  obtain ⟨d, j, hj, hd, hstrand⟩ := h.strands place hplace
  have hcoming : (p.strand place).coming = [] := by simp [strand, hevents]
  have hleft : (p.strand place).waiting = [] := by simp [strand, hwaiting]
  rw [hstrand] at hcoming hleft ⊢
  obtain ⟨hdone, hheard⟩ := Script.played_out hj hd hcoming hleft
  rw [hdone, hheard]

theorem Woven.command_other (h : Woven s n p) {handle : Handle}
    (hother : ∀ place, place < n → handle ≠ .nth place) :
    p.calls.filterMap (·.command? handle) = [] := by
  rw [List.filterMap_eq_nil_iff]
  intro call hcall
  cases call with
  | openSession params => rfl
  | command h' c =>
    obtain ⟨place, hplace, rfl⟩ := h.commanded h' c hcall
    exact if_neg fun heq => hother place hplace heq.symm

theorem Woven.entry_other (h : Woven s n p) {handle : Handle}
    (hother : ∀ place, place < n → handle ≠ .nth place) :
    p.registry.sessions.get? handle = none := by
  cases he : p.registry.sessions.get? handle with
  | none => rfl
  | some e =>
    obtain ⟨place, hplace, rfl⟩ := h.registered handle e he
    exact absurd rfl (hother place hplace)

theorem Woven.finished (h : Woven s n p) (hrest : p.AtRest) : Finished s n p := by
  have hend : ∀ place, place < n → p.strand place = _ :=
    fun place hplace => (h.strand_atRest hrest hplace).trans (s.strand_end place)
  refine ⟨?_, ?_, h.opened, ?_, ?_, ?_⟩
  · rw [Agent.reports, List.eq_replicate_iff, List.length_map]
    refine ⟨h.handlers, ?_⟩
    intro count hcount
    obtain ⟨handler, hmem, rfl⟩ := List.mem_map.mp hcount
    obtain ⟨place, hlt, hget⟩ := List.getElem_of_mem hmem
    have hfound : p.agent.handlers[place]? = some handler := by
      rw [List.getElem?_eq_getElem hlt, hget]
    have hhandler := congrArg Strand.handler (hend place (h.handlers ▸ hlt))
    rw [← Option.some.inj (hhandler.symm.trans hfound)]
  · intro place hplace
    rw [hend place hplace]
    simp only [Script.course, List.map_append, List.map_map, apply_ite (List.map _), List.map_cons,
      List.map_nil]
    rfl
  · intro place hplace
    exact congrArg Strand.calls (hend place hplace)
  · intro place hplace
    have hentry := congrArg Strand.entry (hend place hplace)
    change p.registry.sessions.get? (.nth place) = _ at hentry
    rw [Registry.phase?, hentry]
    split <;> rfl
  · intro handle hother
    refine ⟨?_, h.command_other hother⟩
    rw [Registry.isRegistered_eq, Registry.owner?, h.entry_other hother]
    rfl

end Ends

section Schedules
variable {n : Nat}

/-- In whatever order events are delivered and jobs are run, there are finitely many moves, they can
be continued until nothing is left to do, and then all sessions have come to their ends, in a state
that is the same for every order. -/
theorem sessions_come_to_rest (s : Script) (hn : n < 2 ^ 31) (tracker : Tracker)
    (service : Service) :
    ∃ a, Agent.openSessions s.closeAfter (List.range n) (.idle s.reports tracker service) =
        (.ok (), a) ∧
      ∀ moves p, (⟨a, []⟩ : Interplay).play moves = some p →
        moves.length ≤ 2 * n * (s.reports + 3) ∧
        (∃ more p', p.play more = some p' ∧ p'.AtRest) ∧
        (p.AtRest → Finished s n p ∧
          ∀ moves' p', (⟨a, []⟩ : Interplay).play moves' = some p' → p'.AtRest → p' = p) := by
  refine ⟨_, openSessions_idle s tracker service hn, ?_⟩
  intro moves p hplay
  obtain ⟨hwoven, hprogress⟩ := (woven_opened hn).play hn hplay
  refine ⟨?_, hwoven.settles hn, ?_⟩
  · have hle := hwoven.progress_le
    omega
  · intro hrest
    refine ⟨hwoven.finished hrest, ?_⟩
    intro moves' p' hplay' hrest'
    exact (woven_opened hn).rest_unique hn hplay hrest hplay' hrest'

/-- Two sessions are closed after the first of two reports, and the second is still heard. -/
theorem sessions_come_to_rest_closing :
    let tracker : Tracker := { context := Agent.context, group := .zero, required := .empty }
    2 < 2 ^ 31 ∧ ∃ a moves p,
      Agent.openSessions 1 (List.range 2) (.idle 2 tracker {}) = (.ok (), a) ∧
      (⟨a, []⟩ : Interplay).play moves = some p ∧ p.AtRest ∧ p.agent.reports = [2, 2] ∧
      p.registry.phase? (.nth 1) = none ∧
      p.calls.filterMap (·.command? (.nth 1)) = [.start (Agent.sessionParams 1), .close] := by
  intro tracker
  obtain ⟨a, hopen, hall⟩ := sessions_come_to_rest (n := 2) ⟨2, 1⟩ (by decide) tracker {}
  obtain ⟨-, ⟨moves, p, hplay, hrest⟩, -⟩ := hall [] _ rfl
  obtain ⟨-, -, hend⟩ := hall moves p hplay
  have hfinished := (hend hrest).1
  exact ⟨by decide, a, moves, p, hopen, hplay, hrest, hfinished.counted,
    hfinished.phases 1 (by decide), hfinished.commanded 1 (by decide)⟩

end Schedules

end Rangelink.Interplay
