import Rangelink.Proofs.History
import Rangelink.Proofs.Ranging.Step

/-! # What one operation does to the entries and leases of a registry

The entry of a handle is changed by the occurrences under that handle alone. Its
phase is that of the last start or stop, or tells whether an opening was reported.
A lease is issued when a session is handed to its client, stays in the entry, and
is ended by the closing of the entry.
-/
namespace Rangelink

def Notice.session? : Notice → Option Session
  | .opened session => some session
  | .openFailed _ _ | .started _ | .startFailed _ _ | .reconfigured _ | .reconfigureFailed _ _
  | .stopped | .stopFailed _ _ | .closed _ _ | .report _ => none

/-- The occurrences that write the phase of a session. -/
def Occurrence.moves : Occurrence → Bool
  | .opened | .started _ | .stopped => true
  | .openFailed _ _ | .startFailed _ _ | .reconfigured _ | .reconfigureFailed _ _
  | .stopFailed _ _ | .closed _ _ | .result _ => false

/-- The phase that an occurrence writes, whatever the phase was before. -/
def Occurrence.written? : Occurrence → Option SessionPhase
  | .started _ => some .active
  | .stopped => some .idle
  | .opened | .openFailed _ _ | .startFailed _ _ | .reconfigured _ | .reconfigureFailed _ _
  | .stopFailed _ _ | .closed _ _ | .result _ => none

theorem Occurrence.moves_eq_false_iff {o : Occurrence} :
    o.moves = false ↔ o ≠ .opened ∧ o.written? = none := by
  cases o <;> simp [moves, written?]

/-- The phase of a session of which all this was reported: the one that the last start or stop wrote.
Without one, the session is idle once its opening was reported. -/
def SessionPhase.ofHistory (history : List Occurrence) : SessionPhase :=
  lastWritten Occurrence.written? (if .opened ∈ history then .idle else .requested) history

namespace SessionPhase

theorem ne_requested_of_written {o : Occurrence} {phase : SessionPhase}
    (h : o.written? = some phase) : phase ≠ .requested := by
  rintro rfl
  cases o <;> cases h

theorem ofHistory_concat (history : List Occurrence) (o : Occurrence) :
    ofHistory (history ++ [o]) =
      o.written?.getD
        (if o = .opened ∧ ofHistory history = .requested then .idle else ofHistory history) := by
  rw [ofHistory, lastWritten_concat]
  refine congrArg _ ?_
  by_cases ho : o = .opened
  · subst ho
    simp only [List.mem_append, List.mem_singleton, or_true, if_true, true_and, ofHistory,
      lastWritten]
    -- an opening moves a session that no start or stop has moved
    cases hlast : (history.filterMap Occurrence.written?).getLast? with
    | some phase =>
      obtain ⟨o, -, ho⟩ := List.mem_filterMap.mp (List.mem_of_getLast? hlast)
      exact (if_neg (ne_requested_of_written ho)).symm
    | none => by_cases h : Occurrence.opened ∈ history <;> simp [h]
  · have hopened : Occurrence.opened ∈ history ++ [o] ↔ Occurrence.opened ∈ history := by
      simp [Ne.symm ho]
    simp only [hopened, ho, false_and, if_false, ofHistory]

theorem ofHistory_eq_requested_iff {history : List Occurrence} :
    ofHistory history = .requested ↔ ∀ o ∈ history, o.moves = false := by
  induction history using List.reverseRecOn with
  | nil => simp [ofHistory, lastWritten]
  | append_singleton history o ih =>
    rw [ofHistory_concat, List.forall_mem_append, ← ih, List.forall_mem_singleton,
      Occurrence.moves_eq_false_iff]
    cases hw : o.written? with
    | some phase => simp [ne_requested_of_written hw]
    | none =>
      by_cases ho : o = .opened
      · by_cases h : ofHistory history = .requested <;> simp [ho, h]
      · simp [ho]

end SessionPhase

namespace SessionEntry
variable {κ ε : Type} {e e' : SessionEntry κ ε} {fresh : Nat} {o : Occurrence}

theorem lease_after (fresh : Nat) (o : Occurrence) (e : SessionEntry κ ε) :
    (e.after fresh o).bind (·.lease) =
      if o.isFinal = true then none
      else if o = .opened ∧ e.phase = .requested then some fresh else e.lease := by
  cases o with
  | opened =>
    simp only [after, Occurrence.isFinal, true_and]
    split <;> rfl
  | openFailed code params => rfl
  | closed code params => rfl
  | started params => simp [after, Occurrence.isFinal]
  | stopped => simp [after, Occurrence.isFinal]
  | startFailed code params => simp [after, Occurrence.isFinal]
  | reconfigured params => simp [after, Occurrence.isFinal]
  | reconfigureFailed code params => simp [after, Occurrence.isFinal]
  | stopFailed code params => simp [after, Occurrence.isFinal]
  | result batch => simp [after, Occurrence.isFinal]

theorem after_eq_some_requested (h : e.after fresh o = some e') (hp : e'.phase = .requested) :
    e' = e ∧ o.moves = false := by
  cases o with
  | opened =>
    simp only [after, Option.some.injEq] at h
    split at h
    · subst h
      cases hp
    · rename_i hold
      subst h
      exact absurd hp hold
  | openFailed code params => cases h
  | closed code params => cases h
  | started params =>
    cases h
    cases hp
  | stopped =>
    cases h
    cases hp
  | startFailed code params => exact ⟨(Option.some.inj h).symm, rfl⟩
  | reconfigured params => exact ⟨(Option.some.inj h).symm, rfl⟩
  | reconfigureFailed code params => exact ⟨(Option.some.inj h).symm, rfl⟩
  | stopFailed code params => exact ⟨(Option.some.inj h).symm, rfl⟩
  | result batch => exact ⟨(Option.some.inj h).symm, rfl⟩

theorem after_of_not_moves (hm : o.moves = false) (hf : o.isFinal = false) :
    e.after fresh o = some e := by
  cases o with
  | startFailed code params => rfl
  | reconfigured params => rfl
  | reconfigureFailed code params => rfl
  | stopFailed code params => rfl
  | result batch => rfl
  | opened => cases hm
  | started params => cases hm
  | stopped => cases hm
  | openFailed code params => cases hf
  | closed code params => cases hf

theorem phase_after {earlier : List Occurrence} (hp : e.phase = .ofHistory earlier)
    (hf : o.isFinal = false) :
    (e.after fresh o).map (·.phase) = some (.ofHistory (earlier ++ [o])) := by
  rw [SessionPhase.ofHistory_concat, ← hp]
  cases o with
  | opened =>
    simp only [after, Option.map_some, Occurrence.written?, Option.getD_none, true_and]
    split <;> rfl
  | started params => rfl
  | stopped => rfl
  | startFailed code params => simp [after, Occurrence.written?]
  | reconfigured params => simp [after, Occurrence.written?]
  | reconfigureFailed code params => simp [after, Occurrence.written?]
  | stopFailed code params => simp [after, Occurrence.written?]
  | result batch => simp [after, Occurrence.written?]
  | openFailed code params => cases hf
  | closed code params => cases hf

end SessionEntry

namespace Registry
variable {κ ε : Type} {h h' : Handle} {r : Registry κ ε} {op : Op κ ε}

def lease? (h : Handle) (r : Registry κ ε) : Option Nat := (r.sessions.get? h).bind (·.lease)

/-- The session belongs to the entry that is registered under its handle. -/
def Holds (s : Session) (r : Registry κ ε) : Prop := r.lease? s.handle = some s.lease

instance (s : Session) (r : Registry κ ε) : Decidable (r.Holds s) :=
  inferInstanceAs (Decidable (r.lease? s.handle = some s.lease))

theorem issued_handle (h : Handle) (o : Occurrence) (r : Registry κ ε) :
    (r.handle h o).1.issued =
      if o = .opened ∧ r.phase? h = some .requested then r.issued + 1 else r.issued := by
  cases he : r.sessions.get? h with
  | none =>
    rw [handle_unowned (owner?_eq_none_iff.mpr he)]
    simp [phase?, he]
  | some e =>
    have hphase : r.phase? h = some e.phase := by rw [phase?, he, Option.map_some]
    rw [handle_of_entry he, hphase]
    simp only [Option.some.injEq]

theorem mem_ended_handle {lease : Nat} (h : Handle) (o : Occurrence) (r : Registry κ ε) :
    lease ∈ (r.handle h o).1.ended ↔
      lease ∈ r.ended ∨ (o.isClosing = true ∧ r.lease? h = some lease) := by
  cases he : r.sessions.get? h with
  | none =>
    rw [handle_unowned (owner?_eq_none_iff.mpr he)]
    simp [lease?, he]
  | some e =>
    have hlease : r.lease? h = e.lease := by rw [lease?, he, Option.bind_some]
    rw [handle_of_entry he, hlease]
    cases o.isClosing with
    | false => simp
    | true => cases e.lease <;> simp [eq_comm, or_comm]

/-- The session that an operation hands to its client. -/
def handedOut? (op : Op κ ε) (r : Registry κ ε) : Option Session :=
  op.event?.bind fun event =>
    if event.occurrence = .opened ∧ r.phase? event.handle = some .requested then
      some ⟨event.handle, r.issued⟩
    else none

def Op.closes (h : Handle) (op : Op κ ε) : Bool := (op.occurrence? h).any Occurrence.isClosing

/-- The entry that a grant registers, if the handle is free. -/
def Op.newcomer? (h : Handle) : Op κ ε → Option (SessionEntry κ ε)
  | .openSession (.ok h') client executor => if h' = h then some { client, executor } else none
  | .openSession (.error _) _ _ | .receive _ | .handle _ => none

theorem Op.event_or_openSession (op : Op κ ε) :
    (∃ event, op.event? = some event) ∨
      ∃ answer client executor, op = .openSession answer client executor := by
  cases op with
  | openSession answer client executor => exact Or.inr ⟨answer, client, executor, rfl⟩
  | receive event => exact Or.inl ⟨event, rfl⟩
  | handle event => exact Or.inl ⟨event, rfl⟩

theorem Op.newcomer?_eq_some {e : SessionEntry κ ε} (h : op.newcomer? h' = some e) :
    e.phase = .requested ∧ e.lease = none := by
  cases op with
  | receive event => cases h
  | handle event => cases h
  | openSession answer client executor =>
    cases answer with
    | error failure => cases h
    | ok granted =>
      rw [newcomer?] at h
      split at h
      · cases h
        exact ⟨rfl, rfl⟩
      · cases h

theorem step_openSession (r : Registry κ ε) (answer : Except Failure Handle) (client : κ)
    (executor : ε) :
    (r.step (.openSession answer client executor)).2.bind (·.notice.session?) = none ∧
      (r.step (.openSession answer client executor)).1.issued = r.issued ∧
      (r.step (.openSession answer client executor)).1.ended = r.ended ∧
      ∀ h, (r.step (.openSession answer client executor)).1.sessions.get? h =
        (r.sessions.get? h).or ((Op.openSession answer client executor).newcomer? h) := by
  cases answer with
  | error e => exact ⟨rfl, rfl, rfl, fun h => (Option.or_none).symm⟩
  | ok h' =>
    cases ho : r.owner? h' with
    | none =>
      rw [step_entered ho]
      refine ⟨rfl, rfl, rfl, ?_⟩
      intro h
      rw [SortedMap.get?_insert, Op.newcomer?]
      split
      · rename_i hh
        rw [← hh, owner?_eq_none_iff.mp ho, Option.none_or]
      · rw [Option.or_none]
    | some owner =>
      rw [step_taken (by rw [ho]; rfl)]
      refine ⟨rfl, rfl, rfl, ?_⟩
      intro h
      rw [Op.newcomer?]
      split
      · rename_i hh
        obtain ⟨e, he, -⟩ := Option.map_eq_some_iff.mp ho
        rw [← hh, he, Option.some_or]
      · exact (Option.or_none).symm

theorem get?_step (h : Handle) (op : Op κ ε) (r : Registry κ ε) :
    (r.step op).1.sessions.get? h =
      match op.occurrence? h with
      | some o => (r.sessions.get? h).bind (·.after r.issued o)
      | none => (r.sessions.get? h).or (op.newcomer? h) := by
  rcases op.event_or_openSession with ⟨event, he⟩ | ⟨answer, client, executor, rfl⟩
  · have hoccurrence : op.occurrence? h =
        if event.handle = h then some event.occurrence else none := by
      rw [Op.occurrence?, he, Option.bind_some]
    have hnew : op.newcomer? h = none := by
      cases op with
      | openSession answer client executor => cases he
      | receive event => rfl
      | handle event => rfl
    rw [step_event he, get?_handle, hoccurrence, hnew, Option.or_none]
    split
    · rename_i hh
      rw [hh]
    · rfl
  · exact (r.step_openSession answer client executor).2.2.2 h

theorem occurrence?_eq_some_iff {o : Occurrence} :
    op.occurrence? h = some o ↔ op.event? = some ⟨h, o⟩ := by
  cases he : op.event? with
  | none => simp [Op.occurrence?, he]
  | some event =>
    obtain ⟨h', o'⟩ := event
    by_cases hh : h' = h <;> simp [Op.occurrence?, he, hh]

theorem handedOut?_eq_some_iff {s : Session} :
    r.handedOut? op = some s ↔
      op.occurrence? s.handle = some .opened ∧ r.phase? s.handle = some .requested ∧
        s.lease = r.issued := by
  rw [occurrence?_eq_some_iff]
  obtain ⟨h, lease⟩ := s
  cases he : op.event? with
  | none => simp [handedOut?, he]
  | some event =>
    obtain ⟨h', o⟩ := event
    simp only [handedOut?, he, Option.bind_some, Option.ite_none_right_eq_some, Option.some.injEq,
      Session.mk.injEq, RangingEvent.mk.injEq]
    constructor
    · rintro ⟨⟨rfl, hp⟩, rfl, rfl⟩
      exact ⟨⟨rfl, rfl⟩, hp, rfl⟩
    · rintro ⟨⟨rfl, rfl⟩, hp, rfl⟩
      exact ⟨⟨rfl, hp⟩, rfl, rfl⟩

theorem lease?_step (h : Handle) (op : Op κ ε) (r : Registry κ ε) :
    (r.step op).1.lease? h =
      if op.ends h = true then none
      else if r.handedOut? op = some ⟨h, r.issued⟩ then some r.issued else r.lease? h := by
  rw [lease?, get?_step, Op.ends, lease?]
  simp only [handedOut?_eq_some_iff, and_true]
  cases ho : op.occurrence? h with
  | none =>
    cases he : r.sessions.get? h with
    | some e => simp
    | none =>
      cases hn : op.newcomer? h with
      | none => simp
      | some e => simp [(Op.newcomer?_eq_some hn).2]
  | some o =>
    cases he : r.sessions.get? h with
    | none => simp [phase?, he]
    | some e =>
      have hphase : r.phase? h = some e.phase := by rw [phase?, he, Option.map_some]
      simp only [Option.bind_some, SessionEntry.lease_after, Option.any_some, hphase,
        Option.some.injEq]

theorem issued_step (op : Op κ ε) (r : Registry κ ε) :
    (r.step op).1.issued = r.issued + (r.handedOut? op).toList.length := by
  rcases op.event_or_openSession with ⟨event, he⟩ | ⟨answer, client, executor, rfl⟩
  · rw [step_event he, issued_handle, handedOut?, he, Option.bind_some]
    split <;> rfl
  · exact (r.step_openSession answer client executor).2.1

theorem Op.closes_iff {event : RangingEvent} (he : op.event? = some event) :
    op.closes h = true ↔ event.handle = h ∧ event.occurrence.isClosing = true := by
  rw [Op.closes, Op.occurrence?, he, Option.bind_some]
  split <;> simp [*]

theorem mem_ended_step {lease : Nat} :
    lease ∈ (r.step op).1.ended ↔
      lease ∈ r.ended ∨ ∃ h, op.closes h = true ∧ r.lease? h = some lease := by
  rcases op.event_or_openSession with ⟨event, he⟩ | ⟨answer, client, executor, rfl⟩
  · rw [step_event he, mem_ended_handle]
    refine or_congr Iff.rfl ?_
    constructor
    · rintro ⟨hclosing, hlease⟩
      exact ⟨event.handle, (Op.closes_iff he).mpr ⟨rfl, hclosing⟩, hlease⟩
    · rintro ⟨h, hcloses, hlease⟩
      obtain ⟨rfl, hclosing⟩ := (Op.closes_iff he).mp hcloses
      exact ⟨hclosing, hlease⟩
  · have hnever : ∀ h, (Op.openSession answer client executor : Op κ ε).closes h = false := by
      intro h
      rfl
    rw [(r.step_openSession answer client executor).2.2.1]
    simp [hnever]

theorem session_of_notice? (phase : Option SessionPhase) (session : Session) (o : Occurrence) :
    (o.notice? phase session).bind Notice.session? =
      if o = .opened ∧ phase = some .requested then some session else none := by
  cases o with
  | opened =>
    simp only [Occurrence.notice?, true_and]
    split <;> rfl
  | openFailed code params => rfl
  | started params => rfl
  | startFailed code params => rfl
  | reconfigured params => rfl
  | reconfigureFailed code params => rfl
  | stopped => rfl
  | stopFailed code params => rfl
  | closed code params => rfl
  | result batch => rfl

/-- A delivery hands a session out exactly when the registry issues it. -/
theorem session_told (op : Op κ ε) (r : Registry κ ε) :
    (r.step op).2.bind (·.notice.session?) = r.handedOut? op := by
  rcases op.event_or_openSession with ⟨event, he⟩ | ⟨answer, client, executor, rfl⟩
  · rw [step_event he, handle_told, handedOut?, he, Option.bind_some]
    cases ho : r.owner? event.handle with
    | none =>
      have hphase : r.phase? event.handle = none := by
        rw [phase?, owner?_eq_none_iff.mp ho, Option.map_none]
      simp [hphase]
    | some owner =>
      rw [Option.bind_some, Option.bind_map]
      exact session_of_notice? _ _ _
  · exact (r.step_openSession answer client executor).1

theorem phase?_eq_some_iff {phase : SessionPhase} :
    r.phase? h = some phase ↔ ∃ e, r.sessions.get? h = some e ∧ e.phase = phase :=
  Option.map_eq_some_iff

/-- A session that is still requested has no lease. -/
theorem lease?_requested_step (hr : ∀ h, r.phase? h = some .requested → r.lease? h = none)
    (hphase : (r.step op).1.phase? h = some .requested) : (r.step op).1.lease? h = none := by
  obtain ⟨e, he, hp⟩ := phase?_eq_some_iff.mp hphase
  have hlease : (r.step op).1.lease? h = e.lease := by rw [lease?, he, Option.bind_some]
  have hold : r.sessions.get? h = some e → e.lease = none := by
    intro hsame
    have hnone := hr h (phase?_eq_some_iff.mpr ⟨e, hsame, hp⟩)
    rwa [lease?, hsame, Option.bind_some] at hnone
  rw [hlease]
  rw [get?_step] at he
  split at he
  · obtain ⟨old, hget, hafter⟩ := Option.bind_eq_some_iff.mp he
    obtain ⟨rfl, -⟩ := SessionEntry.after_eq_some_requested hafter hp
    exact hold hget
  · rcases Option.or_eq_some_iff.mp he with hget | ⟨-, hnew⟩
    · exact hold hget
    · exact (Op.newcomer?_eq_some hnew).2

end Registry

end Rangelink
