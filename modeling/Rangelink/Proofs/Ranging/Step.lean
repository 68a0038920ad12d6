import Rangelink.Proofs.SortedMap
import Rangelink.Ranging.Registry

/-! # What one operation does to a session registry

Seen from one handle, an operation registers an owner, removes it, or leaves it
as it is. Whatever is told of a handle goes to its owner.
-/
namespace Rangelink

/-- What the owner of a session is told of an occurrence. Only the report that the session is open
depends on the phase. -/
def Occurrence.notice? (phase : Option SessionPhase) (session : Session) :
    Occurrence → Option Notice
  | .opened => if phase = some .requested then some (.opened session) else none
  | .openFailed code params => some (.openFailed (.ofCode code) params)
  | .started params => some (.started params)
  | .startFailed code params => some (.startFailed (.ofCode code) params)
  | .reconfigured params => some (.reconfigured params)
  | .reconfigureFailed code params => some (.reconfigureFailed (.ofCode code) params)
  | .stopped => some .stopped
  | .stopFailed code params => some (.stopFailed (.ofCode code) params)
  | .closed code params => some (.closed (.ofCode code) params)
  | .result batch => some (.report batch)

def Occurrence.isFinal : Occurrence → Bool
  | .openFailed _ _ | .closed _ _ => true
  | .opened | .started _ | .startFailed _ _ | .reconfigured _ | .reconfigureFailed _ _
  | .stopped | .stopFailed _ _ | .result _ => false

def Occurrence.isClosing : Occurrence → Bool
  | .closed _ _ => true
  | .opened | .openFailed _ _ | .started _ | .startFailed _ _ | .reconfigured _
  | .reconfigureFailed _ _ | .stopped | .stopFailed _ _ | .result _ => false

/-- An entry after an occurrence under its handle, if it stays; `fresh` is the lease to issue. -/
def SessionEntry.after {κ ε : Type} (fresh : Nat) (e : SessionEntry κ ε) :
    Occurrence → Option (SessionEntry κ ε)
  | .opened =>
    some (if e.phase = .requested then { e with phase := .idle, lease := some fresh } else e)
  | .openFailed _ _ | .closed _ _ => none
  | .started _ => some { e with phase := .active }
  | .stopped => some { e with phase := .idle }
  | .startFailed _ _ | .reconfigured _ | .reconfigureFailed _ _ | .stopFailed _ _ | .result _ =>
    some e

theorem SessionEntry.owner_after {κ ε : Type} (fresh : Nat) (o : Occurrence)
    (e : SessionEntry κ ε) :
    (e.after fresh o).map (fun e => (e.client, e.executor)) =
      if o.isFinal = true then none else some (e.client, e.executor) := by
  cases o with
  | opened =>
    simp only [after]
    split <;> rfl
  | openFailed code params => rfl
  | started params => rfl
  | startFailed code params => rfl
  | reconfigured params => rfl
  | reconfigureFailed code params => rfl
  | stopped => rfl
  | stopFailed code params => rfl
  | closed code params => rfl
  | result batch => rfl

namespace Registry
variable {κ ε : Type}

/-- The client of the session under a handle, and the executor on which it is told. -/
def owner? (h : Handle) (r : Registry κ ε) : Option (κ × ε) :=
  (r.sessions.get? h).map fun e => (e.client, e.executor)

theorem isRegistered_eq (h : Handle) (r : Registry κ ε) :
    r.isRegistered h = (r.owner? h).isSome := by
  simp [isRegistered, SortedMap.contains, owner?]

theorem owner?_eq_none_iff {h : Handle} {r : Registry κ ε} :
    r.owner? h = none ↔ r.sessions.get? h = none := by
  simp [owner?]

theorem owner?_insert (h h' : Handle) (e : SessionEntry κ ε) (r : Registry κ ε) :
    ({ r with sessions := r.sessions.insert h e } : Registry κ ε).owner? h' =
      if h = h' then some (e.client, e.executor) else r.owner? h' := by
  unfold owner?
  rw [SortedMap.get?_insert]
  split <;> rfl

section Handlers
variable {h : Handle} {r : Registry κ ε}

/-- Every handler but that for an opening passes one notice on. -/
theorem handle_passOn (h : Handle) {o : Occurrence} (ho : o ≠ .opened) :
    ∃ notice, ∃ change : SessionEntry κ ε → Registry κ ε → Registry κ ε,
      (∀ phase session, o.notice? phase session = some notice) ∧
        ∀ r : Registry κ ε, r.handle h o = r.passOn h notice change := by
  cases o with
  | opened => exact absurd rfl ho
  | openFailed code params => exact ⟨_, _, fun _ _ => rfl, fun _ => rfl⟩
  | started params => exact ⟨_, _, fun _ _ => rfl, fun _ => rfl⟩
  | startFailed code params => exact ⟨_, _, fun _ _ => rfl, fun _ => rfl⟩
  | reconfigured params => exact ⟨_, _, fun _ _ => rfl, fun _ => rfl⟩
  | reconfigureFailed code params => exact ⟨_, _, fun _ _ => rfl, fun _ => rfl⟩
  | stopped => exact ⟨_, _, fun _ _ => rfl, fun _ => rfl⟩
  | stopFailed code params => exact ⟨_, _, fun _ _ => rfl, fun _ => rfl⟩
  | closed code params => exact ⟨_, _, fun _ _ => rfl, fun _ => rfl⟩
  | result batch => exact ⟨_, _, fun _ _ => rfl, fun _ => rfl⟩

/-- An occurrence under a handle that nobody owns queues nothing and changes nothing. -/
theorem handle_unowned (hn : r.owner? h = none) (o : Occurrence) : r.handle h o = (r, none) := by
  rw [owner?_eq_none_iff] at hn
  by_cases ho : o = .opened
  · subst ho
    simp only [handle, onOpened, hn]
  · obtain ⟨notice, change, -, hpass⟩ := handle_passOn h ho
    rw [hpass, passOn, hn]

theorem handle_told (h : Handle) (o : Occurrence) (r : Registry κ ε) :
    (r.handle h o).2 = (r.owner? h).bind fun owner =>
      (o.notice? (r.phase? h) ⟨h, r.issued⟩).map (Delivery.mk owner.2 owner.1) := by
  cases he : r.sessions.get? h with
  | none =>
    have hn := owner?_eq_none_iff.mpr he
    rw [handle_unowned hn, hn, Option.bind_none]
  | some e =>
    have howner : r.owner? h = some (e.client, e.executor) := by rw [owner?, he, Option.map_some]
    have hphase : r.phase? h = some e.phase := by rw [phase?, he, Option.map_some]
    rw [howner, hphase, Option.bind_some]
    by_cases ho : o = .opened
    · subst ho
      simp only [handle, onOpened, he, Occurrence.notice?, Option.some.injEq]
      split <;> rfl
    · obtain ⟨notice, change, hnotice, hpass⟩ := handle_passOn h ho
      rw [hpass, passOn, he, hnotice]
      rfl

/-- All that an occurrence does to a registry in which its handle has an entry. -/
theorem handle_of_entry {e : SessionEntry κ ε} (he : r.sessions.get? h = some e) (o : Occurrence) :
    (r.handle h o).1 =
      { sessions := (e.after r.issued o).elim (r.sessions.erase h) (r.sessions.insert h ·)
        issued := if o = .opened ∧ e.phase = .requested then r.issued + 1 else r.issued
        ended := (if o.isClosing then e.lease else none).elim r.ended (r.ended.insert ·) } := by
  have hkept : r.sessions.insert h e = r.sessions := SortedMap.insert_of_get?_eq_some he
  cases o with
  | opened =>
    simp only [handle, onOpened, he, SessionEntry.after, Occurrence.isClosing, true_and]
    split
    · rfl
    · rw [Option.elim_some, hkept]
      rfl
  | closed code params =>
    simp only [handle, onClosed, passOn, he]
    cases e.lease <;> rfl
  | openFailed code params =>
    simp only [handle, onOpenFailed, passOn, he]
    rfl
  | started params =>
    simp only [handle, onStarted, passOn, he, setPhase, SortedMap.modify_of_get?_eq_some he]
    rfl
  | stopped =>
    simp only [handle, onStopped, passOn, he, setPhase, SortedMap.modify_of_get?_eq_some he]
    rfl
  | startFailed code params =>
    simp only [handle, onStartFailed, passOn, he, SessionEntry.after, Option.elim_some, hkept]
    rfl
  | reconfigured params =>
    simp only [handle, onReconfigured, passOn, he, SessionEntry.after, Option.elim_some, hkept]
    rfl
  | reconfigureFailed code params =>
    simp only [handle, onReconfigureFailed, passOn, he, SessionEntry.after, Option.elim_some, hkept]
    rfl
  | stopFailed code params =>
    simp only [handle, onStopFailed, passOn, he, SessionEntry.after, Option.elim_some, hkept]
    rfl
  | result batch =>
    simp only [handle, onResult, passOn, he, SessionEntry.after, Option.elim_some, hkept]
    rfl

theorem get?_handle (h h' : Handle) (o : Occurrence) (r : Registry κ ε) :
    (r.handle h o).1.sessions.get? h' =
      if h = h' then (r.sessions.get? h).bind (·.after r.issued o) else r.sessions.get? h' := by
  cases he : r.sessions.get? h with
  | none =>
    rw [handle_unowned (owner?_eq_none_iff.mpr he), Option.bind_none]
    split
    · rename_i hh
      rw [← hh, he]
    · rfl
  | some e =>
    rw [handle_of_entry he, Option.bind_some]
    cases e.after r.issued o with
    | none => exact SortedMap.get?_erase ..
    | some e' => exact SortedMap.get?_insert ..

theorem owner?_handle (h h' : Handle) (o : Occurrence) (r : Registry κ ε) :
    (r.handle h o).1.owner? h' = if h = h' ∧ o.isFinal = true then none else r.owner? h' := by
  unfold owner?
  rw [get?_handle]
  by_cases hh : h = h'
  · subst hh
    cases he : r.sessions.get? h with
    | none => simp
    | some e => simpa using SessionEntry.owner_after r.issued o e
  · simp [hh]

end Handlers

/-- What happens to a registry. A client asks for a session, which the adapter grants under a handle
or refuses; an event of the adapter arrives, or is given to its handler directly. -/
inductive Op (κ ε : Type) where
  | openSession (answer : Except Failure Handle) (client : κ) (executor : ε)
  | receive (event : RangingEvent)
  | handle (event : RangingEvent)

def Op.event? : Op κ ε → Option RangingEvent
  | .openSession _ _ _ => none
  | .receive event => some event
  | .handle event => some event

def Op.client? : Op κ ε → Option κ
  | .openSession _ client _ => some client
  | .receive _ => none
  | .handle _ => none

def Op.Grants (h : Handle) (op : Op κ ε) : Prop :=
  ∃ client executor, op = .openSession (.ok h) client executor

/-- What an operation reports of the session under a handle. -/
def Op.occurrence? (h : Handle) (op : Op κ ε) : Option Occurrence :=
  op.event?.bind fun e => if e.handle = h then some e.occurrence else none

def Op.ends (h : Handle) (op : Op κ ε) : Bool := (op.occurrence? h).any Occurrence.isFinal

def step (op : Op κ ε) (r : Registry κ ε) : Registry κ ε × Option (Delivery κ ε) :=
  match op with
  | .openSession answer client executor =>
    let (outcome, r) := r.openSession answer client executor
    (r, outcome.toOption.join)
  | .receive event => r.receive event
  | .handle event => r.handle event.handle event.occurrence

/-- What the owner of a handle is told by an operation in a state of the registry. -/
def due (h : Handle) (client : κ) (executor : ε) (r : Registry κ ε) (op : Op κ ε) :
    Option (Delivery κ ε) :=
  (op.occurrence? h).bind fun o =>
    (o.notice? (r.phase? h) ⟨h, r.issued⟩).map (Delivery.mk executor client)

section Steps
variable {h : Handle} {r : Registry κ ε} {op : Op κ ε}

theorem step_event {e : RangingEvent} (he : op.event? = some e) (r : Registry κ ε) :
    r.step op = r.handle e.handle e.occurrence := by
  cases op with
  | openSession answer client executor => cases he
  | receive event =>
    cases he
    rfl
  | handle event =>
    cases he
    rfl

theorem step_refused (e : Failure) (client : κ) (executor : ε) (r : Registry κ ε) :
    r.step (.openSession (.error e) client executor) = (r, none) := rfl

theorem step_taken (ho : (r.owner? h).isSome = true) (client : κ) (executor : ε) :
    r.step (.openSession (.ok h) client executor) =
      (r, some ⟨executor, client, .closed .unknown .empty⟩) := by
  rw [← isRegistered_eq] at ho
  simp only [step, openSession, enter, if_pos ho]
  rfl

theorem step_entered (hn : r.owner? h = none) (client : κ) (executor : ε) :
    r.step (.openSession (.ok h) client executor) =
      ({ r with sessions := r.sessions.insert h { client, executor } }, none) := by
  have hr : ¬ r.isRegistered h = true := by
    rw [isRegistered_eq, hn]
    simp
  simp only [step, openSession, enter, if_neg hr]
  rfl

theorem owner?_grant (h : Handle) (client : κ) (executor : ε) (r : Registry κ ε) :
    (r.step (.openSession (.ok h) client executor)).1.owner? h =
      (r.owner? h).or (some (client, executor)) := by
  cases ho : r.owner? h with
  | none => rw [step_entered ho, owner?_insert, if_pos rfl, Option.none_or]
  | some owner => rw [step_taken (by rw [ho]; rfl), ho, Option.some_or]

/-- Without a grant, a handle keeps its owner until its session ends. -/
theorem owner?_step (hg : ¬ op.Grants h) (r : Registry κ ε) :
    (r.step op).1.owner? h = if op.ends h = true then none else r.owner? h := by
  cases he : op.event? with
  | some e =>
    rw [step_event he, owner?_handle]
    by_cases hh : e.handle = h <;> simp [Op.ends, Op.occurrence?, he, hh]
  | none =>
    have hends : op.ends h = false := by simp [Op.ends, Op.occurrence?, he]
    rw [hends, if_neg (by simp)]
    cases op with
    | receive event => cases he
    | handle event => cases he
    | openSession answer client executor =>
      rcases answer with e | h'
      · rfl
      · have hne : h' ≠ h := by
          rintro rfl
          exact hg ⟨client, executor, rfl⟩
        cases ho : r.owner? h' with
        | none => rw [step_entered ho, owner?_insert, if_neg hne]
        | some owner => rw [step_taken (by rw [ho]; rfl)]

theorem Op.Grants.ends (hg : op.Grants h) (h' : Handle) : op.ends h' = false := by
  obtain ⟨client, executor, rfl⟩ := hg
  rfl

theorem owner?_step_keeps {owner : κ × ε} (ho : r.owner? h = some owner)
    (hends : op.ends h = false) : (r.step op).1.owner? h = some owner := by
  by_cases hg : op.Grants h
  · obtain ⟨client, executor, rfl⟩ := hg
    rw [owner?_grant, ho, Option.some_or]
  · rw [owner?_step hg, hends, if_neg (by simp), ho]

theorem owner?_step_ends (hends : op.ends h = true) : (r.step op).1.owner? h = none := by
  have hg : ¬ op.Grants h := by
    intro hg
    rw [hg.ends h] at hends
    cases hends
  rw [owner?_step hg, if_pos hends]

theorem step_occurrence {o : Occurrence} (ho : op.occurrence? h = some o) (r : Registry κ ε) :
    r.step op = r.handle h o := by
  obtain ⟨e, he, hh⟩ := Option.bind_eq_some_iff.mp ho
  split at hh
  · rename_i hhandle
    rw [step_event he, hhandle, Option.some.inj hh]
  · cases hh

theorem step_unowned (hn : r.owner? h = none) (ha : (op.occurrence? h).isSome = true) :
    r.step op = (r, none) := by
  obtain ⟨o, ho⟩ := Option.isSome_iff_exists.mp ha
  rw [step_occurrence ho, handle_unowned hn]

theorem told_eq_due {client : κ} {executor : ε} (hr : r.owner? h = some (client, executor))
    (ha : (op.occurrence? h).isSome = true) : (r.step op).2 = due h client executor r op := by
  obtain ⟨o, ho⟩ := Option.isSome_iff_exists.mp ha
  rw [step_occurrence ho, handle_told, hr, due, ho]
  rfl

/-- Whoever is told something asked for a session just now, or owns the handle that an event is
about. -/
theorem client_of_told {d : Delivery κ ε} (hd : (r.step op).2 = some d) :
    op.client? = some d.client ∨
      ∃ h, (op.occurrence? h).isSome = true ∧ r.owner? h = some (d.client, d.executor) := by
  cases he : op.event? with
  | some e =>
    right
    refine ⟨e.handle, by simp [Op.occurrence?, he], ?_⟩
    rw [step_event he, handle_told] at hd
    obtain ⟨owner, ho, hnotice⟩ := Option.bind_eq_some_iff.mp hd
    obtain ⟨notice, -, rfl⟩ := Option.map_eq_some_iff.mp hnotice
    exact ho
  | none =>
    left
    cases op with
    | receive event => cases he
    | handle event => cases he
    | openSession answer client executor =>
      rcases answer with e | h
      · cases hd
      · cases ho : r.owner? h with
        | none =>
          rw [step_entered ho] at hd
          cases hd
        | some owner =>
          rw [step_taken (by rw [ho]; rfl)] at hd
          cases hd
          rfl

end Steps

end Registry

end Rangelink
