import Mathlib.Data.List.Basic
import Rangelink.Proofs.Agent.Weaving

/-! # Sessions that keep to their scripts

In every interplay of an agent with its sessions, each session stands somewhere in
its script, whatever the others do, and every move carries one session one step on.
-/
namespace Rangelink

/-- What a session is asked for with, if the call asks for one. -/
def AdapterCall.params? : AdapterCall → Option Params
  | .openSession params => some params
  | .command _ _ => none

namespace Interplay

/-- There is nothing of a session beyond the first `n`. -/
structure Within (n : Nat) (p : Interplay) : Prop where
  addressed : ∀ e ∈ p.events, ∃ place, place < n ∧ e.handle = .nth place
  hearers : ∀ d ∈ p.heard, d.client < n
  clients : ∀ d ∈ p.waiting, d.client < n
  commanded : ∀ h c, .command h c ∈ p.calls → ∃ place, place < n ∧ h = .nth place
  registered : ∀ h e, p.registry.sessions.get? h = some e → ∃ place, place < n ∧ h = .nth place

/-- The first `n` sessions, and no others, keep to their scripts. -/
structure Woven (s : Script) (n : Nat) (p : Interplay) : Prop extends Within n p where
  wired : p.Wired
  reports : p.agent.station.adapter.reportsPerStart = s.reports
  strands : ∀ place, place < n →
    ∃ d j, j ≤ d ∧ d ≤ s.reported j ∧ p.strand place = s.strand place d j
  handlers : p.agent.handlers.length = n
  openings : p.events.filter (fun e => decide (e.occurrence = .opened)) =
    ((List.range n).drop p.registry.issued).map fun place => ⟨.nth place, .opened⟩
  opened : p.calls.filterMap (·.params?) = (List.range n).map Agent.sessionParams

/-- The number of moves that led to a state. -/
def progress (p : Interplay) : Nat := 2 * p.heard.length + p.waiting.length

section Steps
variable {s : Script} {n : Nat} {p p' : Interplay}

theorem Within.delivers (h : Within n p) {i : Nat} {o : Occurrence} {e : SessionEntry Nat Unit}
    (hi : i < n) (hd : Delivers ⟨.nth i, o⟩ p p')
    (he : p.registry.sessions.get? (.nth i) = some e) (hclient : e.client = i)
    (hfresh : o = .opened → p.registry.issued = i) : Within n p' := by
  obtain ⟨htold, hentries⟩ := receive_nth he hclient hfresh
  refine ⟨?_, ?_, ?_, ?_, ?_⟩
  · intro e' he'
    refine h.addressed e' ?_
    rw [hd.events]
    exact List.mem_cons_of_mem _ he'
  · rw [hd.heard]
    exact h.hearers
  · intro d hmem
    rw [hd.waiting, htold, List.mem_append, Option.mem_toList, Option.map_eq_some_iff] at hmem
    rcases hmem with hmem | ⟨notice, -, rfl⟩
    · exact h.clients d hmem
    · exact hi
  · rw [hd.calls]
    exact h.commanded
  · intro handle e' he'
    rw [hd.registry, hentries] at he'
    split at he'
    · rename_i hown
      exact ⟨i, hi, hown.symm⟩
    · exact h.registered handle e' he'

theorem Within.runs (h : Within n p) {d : Delivery Nat Unit} {handler : RangingHandler}
    (hr : Runs d handler p p') (hcommands : Commands d.client p p') : Within n p' := by
  have hi : d.client < n := by
    refine h.clients d ?_
    rw [hr.waiting]
    exact List.mem_cons_self
  obtain ⟨events, hevents, hothers⟩ := hcommands.events
  obtain ⟨commands, hcalls⟩ := hcommands.calls
  refine ⟨?_, ?_, ?_, ?_, ?_⟩
  · intro e he
    rw [hevents, List.mem_append] at he
    rcases he with he | he
    · exact h.addressed e he
    · exact ⟨d.client, hi, (hothers e he).1⟩
  · intro d' hd'
    rw [hr.heard, List.mem_append, List.mem_singleton] at hd'
    rcases hd' with hd' | rfl
    · exact h.hearers d' hd'
    · exact hi
  · intro d' hd'
    refine h.clients d' ?_
    rw [hr.waiting]
    exact List.mem_cons_of_mem _ hd'
  · intro handle c hmem
    rw [hcalls, List.mem_append, List.mem_map] at hmem
    rcases hmem with hmem | ⟨c', -, hcall⟩
    · exact h.commanded handle c hmem
    · exact ⟨d.client, hi, (AdapterCall.command.inj hcall).1.symm⟩
  · rw [hcommands.sessions]
    exact h.registered

theorem openings_cons {event : RangingEvent} {rest : List RangingEvent} {issued : Nat}
    (h : event :: rest =
      ((List.range n).drop issued).map fun place => (⟨.nth place, .opened⟩ : RangingEvent)) :
    issued < n ∧ event = ⟨.nth issued, .opened⟩ ∧
      rest = ((List.range n).drop (issued + 1)).map fun place => ⟨.nth place, .opened⟩ := by
  have hlt : issued < (List.range n).length := by
    rcases Nat.lt_or_ge issued (List.range n).length with hlt | hge
    · exact hlt
    · rw [List.drop_eq_nil_of_le hge] at h
      cases h
  rw [List.drop_eq_getElem_cons hlt, List.map_cons, List.getElem_range] at h
  obtain ⟨hevent, hrest⟩ := List.cons.inj h
  rw [List.length_range] at hlt
  exact ⟨hlt, hevent, hrest⟩

/-- The oldest event is the next one in the script of its session. -/
theorem Woven.next_event (h : Woven s n p) {handle : Handle} {o : Occurrence}
    {rest : List RangingEvent} (hevents : p.events = ⟨handle, o⟩ :: rest) :
    ∃ i d j notice, i < n ∧ handle = .nth i ∧ j ≤ d ∧ d < s.reported j ∧
      p.strand i = s.strand i d j ∧ (s.course i)[d]? = some (o, notice) := by
  have hmem : ⟨handle, o⟩ ∈ p.events := by
    rw [hevents]
    exact List.mem_cons_self
  obtain ⟨i, hi, hhandle⟩ := h.addressed _ hmem
  change handle = .nth i at hhandle
  subst hhandle
  obtain ⟨d, j, hj, hle, hstrand⟩ := h.strands i hi
  have hcoming : ∃ more, (s.strand i d j).coming = o :: more := by
    rw [← hstrand]
    simp [strand, hevents]
  obtain ⟨more, hcoming⟩ := hcoming
  have hlt : d < s.reported j := by
    refine Nat.lt_of_not_le ?_
    intro hle'
    rw [Script.coming_eq_nil_iff.mpr hle'] at hcoming
    cases hcoming
  obtain ⟨o', notice, hcourse, hcons⟩ := Script.coming_cons i hlt
  obtain ⟨rfl, -⟩ := List.cons.inj (hcoming.symm.trans hcons)
  exact ⟨i, d, j, notice, hi, rfl, hj, hlt, hstrand, hcourse⟩

/-- The oldest notice is the next one in the script of its session. -/
theorem Woven.next_notice (h : Woven s n p) {d : Delivery Nat Unit}
    {rest : List (Delivery Nat Unit)} (hwaiting : p.waiting = d :: rest) :
    ∃ seen j o, d.client < n ∧ j < seen ∧ seen ≤ s.reported j ∧
      p.strand d.client = s.strand d.client seen j ∧
      (s.course d.client)[j]? = some (o, d.notice) := by
  have hmem : d ∈ p.waiting := by
    rw [hwaiting]
    exact List.mem_cons_self
  have hi := h.clients d hmem
  obtain ⟨seen, j, hj, hle, hstrand⟩ := h.strands d.client hi
  have hnext : ∃ more, (s.strand d.client seen j).waiting = d.notice :: more := by
    rw [← hstrand]
    simp [strand, hwaiting]
  obtain ⟨more, hnext⟩ := hnext
  have hlt : j < seen := by
    refine Nat.lt_of_not_le ?_
    intro hle'
    rw [(Script.waiting_eq_nil_iff hle).mpr hle'] at hnext
    cases hnext
  obtain ⟨o, notice, hcourse, hcons, -⟩ := Script.waiting_cons d.client hlt hle
  obtain ⟨rfl, -⟩ := List.cons.inj (hnext.symm.trans hcons)
  exact ⟨seen, j, o, hi, hlt, hle, hstrand, hcourse⟩

/-- Sessions are opened in the order of their places, so that each takes its place as its lease. -/
theorem Woven.next_opening (h : Woven s n p) (hn : n < 2 ^ 31) {i : Nat} (hi : i < n)
    {rest : List RangingEvent} (hevents : p.events = ⟨.nth i, .opened⟩ :: rest) :
    p.registry.issued = i ∧ rest.filter (fun e => decide (e.occurrence = .opened)) =
      ((List.range n).drop (i + 1)).map fun place => ⟨.nth place, .opened⟩ := by
  have hopenings := h.openings
  rw [hevents, List.filter_cons_of_pos (by simp)] at hopenings
  obtain ⟨hissued, hevent, hrest⟩ := openings_cons hopenings
  have hplace := (Handle.nth_inj (by omega) (by omega)).mp (RangingEvent.mk.inj hevent).1
  rw [← hplace] at hrest
  exact ⟨hplace.symm, hrest⟩

theorem Woven.issued_delivered (h : Woven s n p) (hn : n < 2 ^ 31) {i : Nat} (hi : i < n)
    {o : Occurrence} (hd : Delivers ⟨.nth i, o⟩ p p') {e : SessionEntry Nat Unit}
    (he : p.registry.sessions.get? (.nth i) = some e) {notice : Notice}
    (hnotice : o.notice? (some e.phase) (.nth i) = some notice) :
    p'.registry.issued = if o = .opened then i + 1 else p.registry.issued := by
  rw [hd.registry, Registry.receive, Registry.issued_handle]
  by_cases ho : o = .opened
  · subst ho
    have hphase : p.registry.phase? (.nth i) = some .requested := by
      rw [Occurrence.notice?] at hnotice
      split at hnotice
      · rename_i hrequested
        rw [Registry.phase?, he]
        exact hrequested
      · cases hnotice
    rw [if_pos ⟨rfl, hphase⟩, if_pos rfl, (h.next_opening hn hi hd.events).1]
  · rw [if_neg (fun hboth => ho hboth.1), if_neg ho]

theorem Woven.delivers (h : Woven s n p) (hn : n < 2 ^ 31) {event : RangingEvent}
    (hd : Delivers event p p') : Woven s n p' ∧ p'.progress = p.progress + 1 := by
  obtain ⟨handle, o⟩ := event
  obtain ⟨i, d, j, notice, hi, rfl, hj, hlt, hstrand, hcourse⟩ := h.next_event hd.events
  obtain ⟨e, hentry, hclient, hlease, -, hnotice, -⟩ := Script.entry_course hcourse
  have he : p.registry.sessions.get? (.nth i) = some e :=
    (congrArg Strand.entry hstrand).trans hentry
  have hopening : o = .opened → p.registry.issued = i ∧
      p'.events.filter (fun e => decide (e.occurrence = .opened)) =
        ((List.range n).drop (i + 1)).map fun place => ⟨.nth place, .opened⟩ := by
    rintro rfl
    exact h.next_opening hn hi hd.events
  have hfresh : o = .opened → p.registry.issued = i := fun ho => (hopening ho).1
  have hissued := h.issued_delivered hn hi hd he hnotice
  obtain ⟨htold, -⟩ := receive_nth he hclient hfresh
  have hwaiting : p'.waiting = p.waiting ++ [⟨(), i, notice⟩] := by
    rw [hd.waiting, htold, hnotice]
    rfl
  have hwithin := h.toWithin.delivers hi hd he hclient hfresh
  refine ⟨⟨hwithin, hd.wired, ?_, ?_, ?_, ?_, ?_⟩, ?_⟩
  · have hbare := congrArg (fun a : Agent => a.station.adapter.reportsPerStart) hd.bare
    exact hbare.trans h.reports
  · intro place hplace
    rw [hd.strand_eq (by omega) he hclient hlease hfresh (by omega : place < 2 ^ 31)]
    split
    · rename_i hown
      subst hown
      rw [hstrand, Script.strand_deliver hj hlt]
      exact ⟨d + 1, j, by omega, hlt, rfl⟩
    · exact h.strands place hplace
  · rw [hd.handlers]
    exact h.handlers
  · rw [hissued]
    split
    · rename_i ho
      exact (hopening ho).2
    · rename_i ho
      have hopenings := h.openings
      rw [hd.events, List.filter_cons_of_neg (by simpa using ho)] at hopenings
      exact hopenings
  · rw [hd.calls]
    exact h.opened
  · rw [progress, progress, hwaiting, hd.heard, List.length_append, List.length_singleton]
    omega

theorem Woven.runs (h : Woven s n p) (hn : n < 2 ^ 31) {d : Delivery Nat Unit}
    {handler : RangingHandler} (hh : p.agent.handlers[d.client]? = some handler)
    (hr : Runs d handler p p') : Woven s n p' ∧ p'.progress = p.progress + 1 := by
  obtain ⟨seen, j, o, hi, hlt, hle, hstrand, hcourse⟩ := h.next_notice hr.waiting
  -- by its script the handler commands its own session only, so that no other strand is touched
  have horder : ∀ t c, (handler.hear d.notice).2 = some (t, c) → t = .nth d.client := by
    have hhandler : handler = s.handler d.client j :=
      Option.some.inj (hh.symm.trans (congrArg Strand.handler hstrand))
    intro t c hc
    rw [hhandler, Script.hear_course hcourse] at hc
    obtain ⟨c', -, hpair⟩ := Option.map_eq_some_iff.mp hc
    exact (Prod.mk.inj hpair).1.symm
  have hcommands := hr.commands h.wired horder
  obtain ⟨events, hevents, hothers⟩ := hcommands.events
  obtain ⟨commands, hcalls⟩ := hcommands.calls
  refine ⟨⟨h.toWithin.runs hr hcommands, hr.wired, ?_, ?_, ?_, ?_, ?_⟩, ?_⟩
  · have hbare := congrArg (fun a : Agent => a.station.adapter.reportsPerStart) hr.bare
    exact hbare.trans h.reports
  · intro place hplace
    rw [hr.strand_eq h.wired hh (by omega) horder (by omega : place < 2 ^ 31), h.reports]
    split
    · rename_i hown
      have hmono := s.reported_mono j
      rw [hown, hstrand, Script.strand_run hlt hle]
      exact ⟨seen, j + 1, hlt, by omega, rfl⟩
    · exact h.strands place hplace
  · rw [hr.handlers, List.length_set]
    exact h.handlers
  · have hnone : events.filter (fun e => decide (e.occurrence = .opened)) = [] := by
      rw [List.filter_eq_nil_iff]
      intro e he
      simpa using (hothers e he).2
    rw [hcommands.issued, hevents, List.filter_append, hnone, List.append_nil]
    exact h.openings
  · have hnone : (commands.map fun c => AdapterCall.command (.nth d.client) c).filterMap
        (·.params?) = [] := by
      simp [AdapterCall.params?]
    rw [hcalls, List.filterMap_append, hnone, List.append_nil]
    exact h.opened
  · simp only [progress, hr.waiting, hr.heard, List.length_append, List.length_cons,
      List.length_nil]
    omega

theorem Woven.handler_next (h : Woven s n p) {d : Delivery Nat Unit}
    {rest : List (Delivery Nat Unit)} (hwaiting : p.waiting = d :: rest) :
    ∃ handler, p.agent.handlers[d.client]? = some handler := by
  have hlt : d.client < p.agent.handlers.length := by
    rw [h.handlers]
    refine h.clients d ?_
    rw [hwaiting]
    exact List.mem_cons_self
  exact ⟨_, List.getElem?_eq_getElem hlt⟩

theorem Woven.delivers_of_deliver (h : Woven s n p) (hp : p.deliver = some p') :
    ∃ event, Delivers event p p' := by
  cases hevents : p.events with
  | nil =>
    have houtbox := h.wired.outbox
    rw [hevents] at houtbox
    simp [deliver, Agent.collect, Station.collect, Adapter.collect, houtbox] at hp
  | cons event rest =>
    obtain ⟨q, hq, hd⟩ := h.wired.deliver hevents
    obtain rfl := Option.some.inj (hq.symm.trans hp)
    exact ⟨event, hd⟩

theorem Woven.runs_of_run (h : Woven s n p) (hp : p.run = some p') :
    ∃ d handler, p.agent.handlers[d.client]? = some handler ∧ Runs d handler p p' := by
  cases hwaiting : p.waiting with
  | nil =>
    have hqueue := h.wired.queue
    rw [hwaiting, List.map_nil] at hqueue
    simp [run, hqueue] at hp
  | cons d rest =>
    obtain ⟨handler, hh⟩ := h.handler_next hwaiting
    obtain ⟨q, hq, hr⟩ := h.wired.run hwaiting hh
    obtain rfl := Option.some.inj (hq.symm.trans hp)
    exact ⟨d, handler, hh, hr⟩

theorem Woven.step (h : Woven s n p) (hn : n < 2 ^ 31) {move : Move}
    (hp : p.step move = some p') : Woven s n p' ∧ p'.progress = p.progress + 1 := by
  cases move with
  | deliver =>
    obtain ⟨event, hd⟩ := h.delivers_of_deliver hp
    exact h.delivers hn hd
  | run =>
    obtain ⟨d, handler, hh, hr⟩ := h.runs_of_run hp
    exact h.runs hn hh hr

theorem Woven.atRest_iff (h : Woven s n p) : p.AtRest ↔ p.events = [] ∧ p.waiting = [] := by
  rw [AtRest, h.wired.outbox, h.wired.queue, Option.some.injEq, List.map_eq_nil_iff]

/-- A state that is not at rest allows a move. -/
theorem Woven.exists_step (h : Woven s n p) (hrest : ¬ p.AtRest) :
    ∃ move p', p.step move = some p' := by
  cases hevents : p.events with
  | cons event rest =>
    obtain ⟨p', hdeliver, -⟩ := h.wired.deliver hevents
    exact ⟨.deliver, p', hdeliver⟩
  | nil =>
    cases hwaiting : p.waiting with
    | cons d rest =>
      obtain ⟨handler, hh⟩ := h.handler_next hwaiting
      obtain ⟨p', hrun, -⟩ := h.wired.run hwaiting hh
      exact ⟨.run, p', hrun⟩
    | nil => exact absurd (h.atRest_iff.mpr ⟨hevents, hwaiting⟩) hrest

/-- A state at rest allows none. -/
theorem Woven.play_atRest (h : Woven s n p) (hrest : p.AtRest) {moves : List Move}
    (hp : p.play moves = some p') : p' = p := by
  cases moves with
  | nil => exact (Option.some.inj hp).symm
  | cons move rest =>
    obtain ⟨hevents, hwaiting⟩ := h.atRest_iff.mp hrest
    obtain ⟨p₁, hstep, -⟩ := Option.bind_eq_some_iff.mp hp
    cases move with
    | deliver =>
      obtain ⟨event, hd⟩ := h.delivers_of_deliver hstep
      rw [hd.events] at hevents
      cases hevents
    | run =>
      obtain ⟨d, handler, -, hr⟩ := h.runs_of_run hstep
      rw [hr.waiting] at hwaiting
      cases hwaiting

theorem Woven.play (h : Woven s n p) (hn : n < 2 ^ 31) {moves : List Move}
    (hp : p.play moves = some p') : Woven s n p' ∧ p'.progress = p.progress + moves.length := by
  induction moves generalizing p with
  | nil =>
    cases hp
    exact ⟨h, rfl⟩
  | cons move rest ih =>
    obtain ⟨p₁, hstep, hplay⟩ := Option.bind_eq_some_iff.mp hp
    obtain ⟨hwoven, hprogress⟩ := h.step hn hstep
    obtain ⟨hend, hprogress'⟩ := ih hwoven hplay
    refine ⟨hend, ?_⟩
    rw [hprogress', hprogress, List.length_cons]
    omega

end Steps

section Bounds
variable {s : Script} {n : Nat} {p : Interplay}

theorem length_le_of_clients {m : Nat} {ds : List (Delivery Nat Unit)} (h : ∀ d ∈ ds, d.client < n)
    (hm : ∀ place, place < n → (ds.filter fun d => decide (d.client = place)).length ≤ m) :
    ds.length ≤ n * m := by
  induction n generalizing ds with
  | zero =>
    cases ds with
    | nil => exact Nat.zero_le _
    | cons d rest => exact absurd (h d List.mem_cons_self) (Nat.not_lt_zero _)
  | succ n ih =>
    have hlast := hm n (Nat.lt_succ_self n)
    have hothers : (ds.filter fun d => !decide (d.client = n)).length ≤ n * m := by
      refine ih ?_ ?_
      · intro d hd
        obtain ⟨hmem, hne⟩ := List.mem_filter.mp hd
        have hlt := h d hmem
        have hclient : d.client ≠ n := by simpa using hne
        omega
      · intro place hplace
        refine Nat.le_trans ?_ (hm place (Nat.lt_succ_of_lt hplace))
        exact (List.filter_sublist.filter _).length_le
    have hsplit := ds.length_eq_length_filter_add fun d => decide (d.client = n)
    rw [Nat.succ_mul]
    omega

/-- There are no more moves than two for each event of each script. -/
theorem Woven.progress_le (h : Woven s n p) : p.progress ≤ 2 * n * (s.reports + 3) := by
  have hclients : ∀ d ∈ p.heard ++ p.waiting, d.client < n := by
    intro d hd
    rcases List.mem_append.mp hd with hd | hd
    · exact h.hearers d hd
    · exact h.clients d hd
  have hfew : (p.heard ++ p.waiting).length ≤ n * (s.reports + 3) := by
    refine length_le_of_clients hclients ?_
    intro place hplace
    obtain ⟨d, j, hj, hd, hstrand⟩ := h.strands place hplace
    have hheard := congrArg (fun x : Strand => x.heard.length) hstrand
    have hwaiting := congrArg (fun x : Strand => x.waiting.length) hstrand
    have hlen := s.reported_le place j
    have hcourse := s.length_course place
    simp only [strand, Script.strand, List.length_map, List.length_take, List.length_drop]
      at hheard hwaiting
    rw [List.filter_append, List.length_append, hheard, hwaiting]
    split at hcourse <;> omega
  rw [List.length_append] at hfew
  rw [progress, Nat.mul_assoc]
  omega

/-- Moves come to an end, so that a state can be judged by those that follow it. -/
@[elab_as_elim]
theorem Woven.forward_induction (hn : n < 2 ^ 31) {motive : Interplay → Prop}
    (each : ∀ p, Woven s n p → (∀ move p', p.step move = some p' → motive p') → motive p)
    (h : Woven s n p) : motive p := by
  -- on the number of moves that the bound leaves
  have bounded : ∀ k p, Woven s n p → 2 * n * (s.reports + 3) ≤ p.progress + k → motive p := by
    intro k
    induction k with
    | zero =>
      intro p h hk
      refine each p h ?_
      intro move p' hstep
      obtain ⟨hwoven, hprogress⟩ := h.step hn hstep
      have hle := hwoven.progress_le
      omega
    | succ k ih =>
      intro p h hk
      refine each p h ?_
      intro move p' hstep
      obtain ⟨hwoven, hprogress⟩ := h.step hn hstep
      exact ih p' hwoven (by omega)
  exact bounded _ p h (Nat.le_add_left _ _)

end Bounds

end Interplay

end Rangelink
