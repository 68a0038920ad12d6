import Rangelink.Proofs.Ranging.Lease
import Rangelink.Ranging.Station

/-! # A registry among its clients

Deliveries wait until they are run, and a client holds a session once the
delivery that hands it out was run. Clients command the sessions they hold at any
time, and the adapter answers as it likes. Along every run a lease stays with one
session, and it ends with the closing of that session and with nothing else.
-/
namespace Rangelink

/-- `queued` are the deliveries that no executor has run yet, and `held` the sessions of those that
were run. `asked` is what the adapter was asked, with its answers, and `answered` what clients were
told of their commands. Copies of a session are equal. -/
structure Desk (κ ε : Type) where
  registry : Registry κ ε := {}
  queued : List (Delivery κ ε) := []
  held : List Session := []
  asked : List (Handle × SessionCommand × Outcome) := []
  answered : List (Session × SessionCommand × Outcome) := []

namespace Desk
variable {κ ε : Type}

inductive Move (κ ε : Type) where
  | operate (op : Registry.Op κ ε)
  | run (position : Nat)
  | command (s : Session) (c : SessionCommand) (answer : Outcome)

def operate (op : Registry.Op κ ε) (d : Desk κ ε) : Desk κ ε :=
  let (registry, delivery) := d.registry.step op
  { d with registry, queued := d.queued ++ delivery.toList }

/-- Executors run their deliveries in any order. -/
def run (position : Nat) (d : Desk κ ε) : Desk κ ε :=
  { d with
    queued := d.queued.eraseIdx position
    held := d.held ++ (d.queued[position]?.bind (·.notice.session?)).toList }

/-- An adapter that keeps what it is asked, and answers as it is told. -/
def instruct (answer : Outcome) (h : Handle) (c : SessionCommand)
    (asked : List (Handle × SessionCommand × Outcome)) :
    Outcome × List (Handle × SessionCommand × Outcome) :=
  (answer, asked ++ [(h, c, answer)])

def command (s : Session) (c : SessionCommand) (answer : Outcome) (d : Desk κ ε) : Desk κ ε :=
  let (outcome, registry, asked) := d.registry.command (instruct answer) s c d.asked
  { d with registry, asked, answered := d.answered ++ [(s, c, outcome)] }

/-- A client commands what it holds. -/
def step (m : Move κ ε) (d : Desk κ ε) : Desk κ ε :=
  match m with
  | .operate op => d.operate op
  | .run position => d.run position
  | .command s c answer => if s ∈ d.held then d.command s c answer else d

def after (moves : List (Move κ ε)) (d : Desk κ ε) : Desk κ ε := moves.foldl (fun d m => d.step m) d

/-- The moves of a run, each with the desk that it finds. -/
def visits : List (Move κ ε) → Desk κ ε → List (Desk κ ε × Move κ ε)
  | [], _ => []
  | m :: rest, d => (d, m) :: visits rest (d.step m)

/-- The desk to which a run leads from an empty one. -/
def reached (moves : List (Move κ ε)) : Desk κ ε := after moves {}

def history (moves : List (Move κ ε)) : List (Desk κ ε × Move κ ε) := visits moves {}

/-- The sessions handed out, delivered or still to be delivered. -/
def sessions (d : Desk κ ε) : List Session :=
  d.held ++ d.queued.filterMap (·.notice.session?)

section Moves
variable {s : Session} {c : SessionCommand} {answer : Outcome} {d : Desk κ ε} {m : Move κ ε}
  {op : Registry.Op κ ε}

theorem reached_append (moves more : List (Move κ ε)) :
    reached (moves ++ more) = (reached moves).after more := List.foldl_append

theorem reached_concat (moves : List (Move κ ε)) (m : Move κ ε) :
    reached (moves ++ [m]) = (reached moves).step m := reached_append moves [m]

theorem visits_concat (moves : List (Move κ ε)) (m : Move κ ε) (d : Desk κ ε) :
    d.visits (moves ++ [m]) = d.visits moves ++ [(d.after moves, m)] := by
  induction moves generalizing d with
  | nil => rfl
  | cons first rest ih =>
    rw [List.cons_append, visits, ih]
    rfl

theorem exists_history_concat {p : Desk κ ε × Move κ ε → Prop} {moves : List (Move κ ε)} :
    (∃ v ∈ history (moves ++ [m]), p v) ↔ (∃ v ∈ history moves, p v) ∨ p (reached moves, m) := by
  simp only [history, visits_concat, List.mem_append, List.mem_singleton]
  constructor
  · rintro ⟨v, hv | rfl, hp⟩
    · exact Or.inl ⟨v, hv, hp⟩
    · exact Or.inr hp
  · rintro (⟨v, hv, hp⟩ | hp)
    · exact ⟨v, Or.inl hv, hp⟩
    · exact ⟨_, Or.inr rfl, hp⟩

theorem mem_sessions : s ∈ d.sessions ↔
    s ∈ d.held ∨ ∃ x ∈ d.queued, x.notice.session? = some s := by
  rw [sessions, List.mem_append, List.mem_filterMap]

theorem mem_sessions_operate :
    s ∈ (d.operate op).sessions ↔ s ∈ d.sessions ∨ d.registry.handedOut? op = some s := by
  rw [← Registry.session_told, sessions, sessions, operate, List.filterMap_append,
    ← List.append_assoc, List.mem_append]
  cases (d.registry.step op).2 <;> simp [eq_comm]

/-- A session that is delivered was handed out before. -/
theorem mem_sessions_run (position : Nat) : s ∈ (d.run position).sessions ↔ s ∈ d.sessions := by
  rw [mem_sessions, mem_sessions, run]
  simp only [List.mem_append, Option.mem_toList, Option.bind_eq_some_iff,
    List.mem_eraseIdx_iff_getElem?, or_assoc]
  refine or_congr Iff.rfl ?_
  constructor
  · rintro (⟨x, hx, hs⟩ | ⟨x, ⟨i, -, hx⟩, hs⟩)
    · exact ⟨x, List.mem_of_getElem? hx, hs⟩
    · exact ⟨x, List.mem_of_getElem? hx, hs⟩
  · rintro ⟨x, hx, hs⟩
    obtain ⟨i, hi⟩ := List.mem_iff_getElem?.mp hx
    by_cases hposition : i = position
    · exact Or.inl ⟨x, hposition ▸ hi, hs⟩
    · exact Or.inr ⟨x, ⟨i, hposition, hi⟩, hs⟩

theorem command_closed (hclosed : d.registry.isClosed s = true) :
    d.command s c answer =
      { d with answered := d.answered ++ [(s, c, .error (.sessionClosed s.handle))] } := by
  simp only [command, Registry.command, hclosed, if_true]

/-- A command on an open session is the adapter's to answer. -/
theorem command_open (hopen : d.registry.isClosed s = false) :
    d.command s c answer =
      { d with
        registry := if c = .close ∧ answer.isOk = true then d.registry.endLease s.lease else d.registry
        asked := d.asked ++ [(s.handle, c, answer)]
        answered := d.answered ++ [(s, c, answer)] } := by
  simp only [command, Registry.command, hopen, instruct]
  cases answer with
  | error e => simp [Except.isOk, Except.toBool]
  | ok u => cases c <;> simp [Registry.afterCommand, Except.isOk, Except.toBool]

theorem step_command (hheld : s ∈ d.held) :
    d.step (.command s c answer) = d.command s c answer := if_pos hheld

theorem step_command_of_not_mem (hheld : s ∉ d.held) :
    d.step (.command s c answer) = d := if_neg hheld

theorem sessions_command : (d.command s c answer).sessions = d.sessions := by
  cases hclosed : d.registry.isClosed s with
  | true => rw [command_closed hclosed]; rfl
  | false => rw [command_open hclosed]; rfl

/-- Every session handed out has a lease of its own, and an entry with a lease was handed out. -/
structure Sound (d : Desk κ ε) : Prop where
  issued : ∀ s ∈ d.sessions, s.lease < d.registry.issued
  distinct : ∀ s ∈ d.sessions, ∀ t ∈ d.sessions, s.lease = t.lease → s = t
  current : ∀ s, d.registry.Holds s → s ∈ d.sessions
  ended : ∀ lease ∈ d.registry.ended, lease < d.registry.issued
  requested : ∀ h, d.registry.phase? h = some .requested → d.registry.lease? h = none

theorem Sound.lease_lt (hd : Sound d) {h : Handle} {lease : Nat}
    (hl : d.registry.lease? h = some lease) : lease < d.registry.issued :=
  hd.issued ⟨h, lease⟩ (hd.current ⟨h, lease⟩ hl)

theorem Sound.handle_eq (hd : Sound d) {h : Handle} (hs : s ∈ d.sessions)
    (hl : d.registry.lease? h = some s.lease) : s.handle = h :=
  congrArg Session.handle (hd.distinct s hs ⟨h, s.lease⟩ (hd.current ⟨h, s.lease⟩ hl) rfl)

/-- A session that is handed out shares its lease with none handed out before. -/
theorem Sound.lease_ne {t : Session} (hd : Sound d) (hs : s ∈ d.sessions)
    (ht : d.registry.handedOut? op = some t) : s.lease ≠ t.lease := by
  obtain ⟨-, -, hfresh⟩ := Registry.handedOut?_eq_some_iff.mp ht
  have hissued := hd.issued s hs
  omega

theorem sound_empty : Sound ({} : Desk κ ε) where
  issued s hs := by cases hs
  distinct s hs := by cases hs
  current s hs := by cases hs
  ended lease hl := absurd hl SortedSet.not_mem_empty
  requested h hp := by cases hp

theorem Sound.operate (hd : Sound d) (op : Registry.Op κ ε) : Sound (d.operate op) := by
  have hgrows : d.registry.issued ≤ (d.operate op).registry.issued := by
    have hissued := d.registry.issued_step op
    exact hissued ▸ Nat.le_add_right _ _
  have hnew : ∀ s, d.registry.handedOut? op = some s →
      s.lease < (d.operate op).registry.issued := by
    intro s hs
    obtain ⟨-, -, hlease⟩ := Registry.handedOut?_eq_some_iff.mp hs
    have hissued : (d.operate op).registry.issued = d.registry.issued + 1 := by
      have hstep := d.registry.issued_step op
      rwa [hs] at hstep
    omega
  have hissued : ∀ s ∈ (d.operate op).sessions, s.lease < (d.operate op).registry.issued := by
    intro s hs
    rcases mem_sessions_operate.mp hs with hs | hs
    · have hold := hd.issued s hs
      omega
    · exact hnew s hs
  have hcurrent : ∀ s, (d.operate op).registry.Holds s → s ∈ (d.operate op).sessions := by
    intro s hs
    refine mem_sessions_operate.mpr ?_
    have hlease : (d.operate op).registry.lease? s.handle = some s.lease := hs
    rw [Desk.operate, Registry.lease?_step] at hlease
    split at hlease
    · cases hlease
    · split at hlease
      · rename_i hout
        rw [Option.some.inj hlease] at hout
        exact Or.inr hout
      · exact Or.inl (hd.current s hlease)
  refine ⟨hissued, ?_, hcurrent, ?_, ?_⟩
  · intro s hs t ht hlease
    rcases mem_sessions_operate.mp hs with hs | hs
    · rcases mem_sessions_operate.mp ht with ht | ht
      · exact hd.distinct s hs t ht hlease
      · exact absurd hlease (hd.lease_ne hs ht)
    · rcases mem_sessions_operate.mp ht with ht | ht
      · exact absurd hlease.symm (hd.lease_ne ht hs)
      · exact Option.some.inj (hs.symm.trans ht)
  · intro lease hl
    rcases Registry.mem_ended_step.mp hl with hl | ⟨h, -, hl⟩
    · exact Nat.lt_of_lt_of_le (hd.ended lease hl) hgrows
    · exact Nat.lt_of_lt_of_le (hd.lease_lt hl) hgrows
  · intro h hp
    exact Registry.lease?_requested_step hd.requested hp

theorem Sound.run (hd : Sound d) (position : Nat) : Sound (d.run position) where
  issued s hs := hd.issued s ((mem_sessions_run position).mp hs)
  distinct s hs t ht :=
    hd.distinct s ((mem_sessions_run position).mp hs) t ((mem_sessions_run position).mp ht)
  current s hs := (mem_sessions_run position).mpr (hd.current s hs)
  ended := hd.ended
  requested := hd.requested

theorem Sound.command (hd : Sound d) (hs : s ∈ d.held) : Sound (d.command s c answer) := by
  cases hclosed : d.registry.isClosed s with
  | true =>
    rw [command_closed hclosed]
    exact ⟨hd.issued, hd.distinct, hd.current, hd.ended, hd.requested⟩
  | false =>
    rw [command_open hclosed]
    split
    · refine ⟨hd.issued, hd.distinct, hd.current, ?_, hd.requested⟩
      intro lease hl
      rcases SortedSet.mem_insert.mp hl with rfl | hl
      · exact hd.issued s (List.mem_append_left _ hs)
      · exact hd.ended lease hl
    · exact ⟨hd.issued, hd.distinct, hd.current, hd.ended, hd.requested⟩

theorem Sound.step (hd : Sound d) (m : Move κ ε) : Sound (d.step m) := by
  cases m with
  | operate op => exact hd.operate op
  | run position => exact hd.run position
  | command s c answer =>
    by_cases hs : s ∈ d.held
    · rw [step_command hs]
      exact hd.command hs
    · rw [step_command_of_not_mem hs]
      exact hd

theorem sound_reached (moves : List (Move κ ε)) : Sound (reached moves) := by
  have run : ∀ (moves : List (Move κ ε)) (d : Desk κ ε), Sound d → Sound (d.after moves) := by
    intro moves
    induction moves with
    | nil => intro d hd; exact hd
    | cons m rest ih => intro d hd; exact ih _ (hd.step m)
  exact run moves {} sound_empty

/-- A move hands out at most one session, of which the registry knew nothing before. -/
theorem mem_sessions_step :
    s ∈ (d.step m).sessions ↔
      s ∈ d.sessions ∨ ∃ op, m = .operate op ∧ d.registry.handedOut? op = some s := by
  cases m with
  | operate op => simp [Desk.step, mem_sessions_operate]
  | run position => simp [Desk.step, mem_sessions_run]
  | command t c answer =>
    by_cases ht : t ∈ d.held
    · simp [step_command ht, sessions_command]
    · simp [step_command_of_not_mem ht]

end Moves

end Desk

end Rangelink
