import Mathlib.Data.List.Induction
import Rangelink.Proofs.Ranging.Desk

/-! # The end of a session

A session is closed from the first closing of its entry or the first close that
the adapter takes, and then for ever, for whoever holds it. As long as it is open
it belongs to the entry under its handle, but for one way out: a failed opening
removes the entry of a session that was handed out, and leaves the session open.
-/
namespace Rangelink.Desk
variable {κ ε : Type}

/-- The move closes the session: the registry closes its entry, or the adapter takes a close of it. -/
def Closes (s : Session) (d : Desk κ ε) (m : Move κ ε) : Prop :=
  match m with
  | .operate op => op.closes s.handle = true ∧ d.registry.Holds s
  | .run _ => False
  | .command t c answer =>
    t = s ∧ (d.step (.command t c answer)).asked = d.asked ++ [(s.handle, .close, .ok ())]

/-- The move removes the entry of the session by a failed opening. -/
def Orphans (s : Session) (d : Desk κ ε) (m : Move κ ε) : Prop :=
  ∃ op code params, m = .operate op ∧ op.occurrence? s.handle = some (.openFailed code params) ∧
    d.registry.Holds s

/-- How often the adapter took a close of the session. -/
def takenCloses (s : Session) (d : Desk κ ε) : Nat :=
  d.answered.countP fun a => decide (a.1 = s) && decide (a.2.1 = .close) && a.2.2.isOk

section Steps
variable {s : Session} {c : SessionCommand} {answer : Outcome} {d : Desk κ ε} {m : Move κ ε}
  {op : Registry.Op κ ε}

theorem isClosed_iff {r : Registry κ ε} : r.isClosed s = true ↔ s.lease ∈ r.ended :=
  SortedSet.contains_eq_true

theorem closes_command_iff {t : Session} :
    Closes s d (.command t c answer) ↔
      t = s ∧ s ∈ d.held ∧ d.registry.isClosed s = false ∧ c = .close ∧ answer = .ok () := by
  unfold Closes
  refine and_congr_right ?_
  rintro rfl
  by_cases hheld : t ∈ d.held
  · rw [step_command hheld]
    cases hclosed : d.registry.isClosed t with
    | true => simp [command_closed hclosed]
    | false => simp [command_open hclosed, hheld]
  · simp [step_command_of_not_mem hheld, hheld]

theorem isClosed_command {t : Session} :
    (d.command t c answer).registry.isClosed s = true ↔
      d.registry.isClosed s = true ∨
        (d.registry.isClosed t = false ∧ c = .close ∧ answer = .ok () ∧ t.lease = s.lease) := by
  cases hclosed : d.registry.isClosed t with
  | true => simp [command_closed hclosed]
  | false =>
    rw [command_open hclosed]
    cases answer with
    | error e => simp [Except.isOk, Except.toBool]
    | ok u =>
      simp only [Except.isOk, Except.toBool, and_true, true_and]
      split
      · rename_i hclose
        simp only [isClosed_iff, Registry.endLease, SortedSet.mem_insert, hclose, true_and]
        rw [or_comm, eq_comm]
      · rename_i hclose
        simp [hclose]

theorem closed_operate (hd : Sound d) :
    (s ∈ (d.operate op).sessions ∧ (d.operate op).registry.isClosed s = true) ↔
      (s ∈ d.sessions ∧ d.registry.isClosed s = true) ∨
        (op.closes s.handle = true ∧ d.registry.Holds s) := by
  have hended : (d.operate op).registry.isClosed s = true ↔
      d.registry.isClosed s = true ∨
        ∃ h, op.closes h = true ∧ d.registry.lease? h = some s.lease := by
    rw [isClosed_iff, isClosed_iff]
    exact Registry.mem_ended_step
  rw [hended, mem_sessions_operate]
  constructor
  · rintro ⟨hs | hnew, hclosed⟩
    · rcases hclosed with hclosed | ⟨h, hcloses, hlease⟩
      · exact Or.inl ⟨hs, hclosed⟩
      · obtain rfl := hd.handle_eq hs hlease
        exact Or.inr ⟨hcloses, hlease⟩
    · -- nothing has ended the lease of a session that is handed out just now
      exfalso
      obtain ⟨-, -, hfresh⟩ := Registry.handedOut?_eq_some_iff.mp hnew
      rcases hclosed with hclosed | ⟨h, -, hlease⟩
      · have hold := hd.ended s.lease (isClosed_iff.mp hclosed)
        omega
      · have hold := hd.lease_lt hlease
        omega
  · rintro (⟨hs, hclosed⟩ | ⟨hcloses, hholds⟩)
    · exact ⟨Or.inl hs, Or.inl hclosed⟩
    · exact ⟨Or.inl (hd.current s hholds), Or.inr ⟨s.handle, hcloses, hholds⟩⟩

theorem closed_command {t : Session} (hd : Sound d) (ht : t ∈ d.held) :
    (s ∈ (d.command t c answer).sessions ∧ (d.command t c answer).registry.isClosed s = true) ↔
      (s ∈ d.sessions ∧ d.registry.isClosed s = true) ∨ Closes s d (.command t c answer) := by
  have hknown : t ∈ d.sessions := mem_sessions.mpr (Or.inl ht)
  rw [sessions_command, isClosed_command, closes_command_iff]
  constructor
  · rintro ⟨hs, hclosed | ⟨hopen, hc, ha, hlease⟩⟩
    · exact Or.inl ⟨hs, hclosed⟩
    · obtain rfl := hd.distinct t hknown s hs hlease
      exact Or.inr ⟨rfl, ht, hopen, hc, ha⟩
  · rintro (⟨hs, hclosed⟩ | ⟨rfl, -, hopen, hc, ha⟩)
    · exact ⟨hs, Or.inl hclosed⟩
    · exact ⟨hknown, Or.inr ⟨hopen, hc, ha, rfl⟩⟩

/-- The sessions that are closed after a move were closed before it or are closed by it. -/
theorem closed_step (hd : Sound d) (m : Move κ ε) :
    (s ∈ (d.step m).sessions ∧ (d.step m).registry.isClosed s = true) ↔
      (s ∈ d.sessions ∧ d.registry.isClosed s = true) ∨ Closes s d m := by
  cases m with
  | operate op => exact closed_operate hd
  | run position =>
    simp only [Desk.step, mem_sessions_run, Closes, or_false]
    rfl
  | command t c answer =>
    by_cases ht : t ∈ d.held
    · rw [step_command ht]
      exact closed_command hd ht
    · have hnot : ¬ Closes s d (.command t c answer) := by
        rw [closes_command_iff]
        rintro ⟨rfl, hheld, -⟩
        exact ht hheld
      rw [step_command_of_not_mem ht]
      exact (or_iff_left hnot).symm

theorem isClosed_step (hclosed : d.registry.isClosed s = true) (m : Move κ ε) :
    (d.step m).registry.isClosed s = true := by
  cases m with
  | operate op =>
    rw [isClosed_iff] at hclosed ⊢
    exact Registry.mem_ended_step.mpr (Or.inl hclosed)
  | run position => exact hclosed
  | command t c answer =>
    by_cases ht : t ∈ d.held
    · rw [step_command ht]
      exact isClosed_command.mpr (Or.inl hclosed)
    · rw [step_command_of_not_mem ht]
      exact hclosed

theorem isClosed_after (hclosed : d.registry.isClosed s = true) (moves : List (Move κ ε)) :
    (d.after moves).registry.isClosed s = true := by
  induction moves generalizing d with
  | nil => exact hclosed
  | cons m rest ih => exact ih (isClosed_step hclosed m)

/-- Once handed out, a session belongs to its entry until an operation removes that entry. -/
theorem holds_step (hd : Sound d) (hs : s ∈ d.sessions) :
    (d.step m).registry.Holds s ↔
      d.registry.Holds s ∧ ∀ op, m = .operate op → op.ends s.handle = false := by
  cases m with
  | run position => simp [Desk.step, Desk.run]
  | command t c answer =>
    have hsame : (d.step (.command t c answer)).registry.Holds s ↔ d.registry.Holds s := by
      by_cases ht : t ∈ d.held
      · rw [step_command ht]
        cases hclosed : d.registry.isClosed t with
        | true => rw [command_closed hclosed]
        | false =>
          rw [command_open hclosed]
          split <;> rfl
      · rw [step_command_of_not_mem ht]
    simp [hsame]
  | operate op =>
    have hlease : (d.step (.operate op)).registry.lease? s.handle =
        if op.ends s.handle = true then none
        else if d.registry.handedOut? op = some ⟨s.handle, d.registry.issued⟩ then
          some d.registry.issued
        else d.registry.lease? s.handle := Registry.lease?_step s.handle op d.registry
    have hne : d.registry.issued ≠ s.lease := Nat.ne_of_gt (hd.issued s hs)
    simp only [Registry.Holds, hlease, Move.operate.injEq, forall_eq']
    cases hends : op.ends s.handle with
    | true => simp
    | false =>
      simp only [Bool.false_eq_true, if_false, and_true]
      split
      · -- a requested session has no lease, so the entry does not change hands
        rename_i hout
        obtain ⟨-, hphase, -⟩ := Registry.handedOut?_eq_some_iff.mp hout
        have hnone := hd.requested s.handle hphase
        simp [hnone, hne]
      · rfl

theorem holds_of_handedOut (hs : d.registry.handedOut? op = some s) :
    (d.operate op).registry.Holds s := by
  obtain ⟨hopened, -, hfresh⟩ := Registry.handedOut?_eq_some_iff.mp hs
  have hends : op.ends s.handle = false := by
    rw [Registry.Op.ends, hopened]
    rfl
  have hout : d.registry.handedOut? op = some ⟨s.handle, d.registry.issued⟩ := by
    rw [hs, ← hfresh]
  have hlease := Registry.lease?_step s.handle op d.registry
  rw [hends, if_neg (by simp), if_pos hout, ← hfresh] at hlease
  exact hlease

/-- What removes the entry of a session either closes the session or orphans it. -/
theorem closes_or_orphans (hholds : d.registry.Holds s) (hends : op.ends s.handle = true) :
    Closes s d (.operate op) ∨ Orphans s d (.operate op) := by
  cases ho : op.occurrence? s.handle with
  | none =>
    rw [Registry.Op.ends, ho] at hends
    cases hends
  | some o =>
    rw [Registry.Op.ends, ho, Option.any_some] at hends
    cases o with
    | closed code params =>
      left
      refine ⟨?_, hholds⟩
      rw [Registry.Op.closes, ho]
      rfl
    | openFailed code params => exact Or.inr ⟨op, code, params, rfl, ho, hholds⟩
    | opened => cases hends
    | started params => cases hends
    | startFailed code params => cases hends
    | reconfigured params => cases hends
    | reconfigureFailed code params => cases hends
    | stopped => cases hends
    | stopFailed code params => cases hends
    | result batch => cases hends

/-- A close is taken from an open session only, which is closed from then on. -/
theorem takenCloses_step (s : Session) (d : Desk κ ε) (m : Move κ ε) :
    takenCloses s (d.step m) = takenCloses s d ∨
      (takenCloses s (d.step m) = takenCloses s d + 1 ∧ d.registry.isClosed s = false ∧
        (d.step m).registry.isClosed s = true) := by
  cases m with
  | operate op => exact Or.inl rfl
  | run position => exact Or.inl rfl
  | command t c answer =>
    by_cases ht : t ∈ d.held
    · rw [step_command ht]
      cases hclosed : d.registry.isClosed t with
      | true =>
        left
        rw [command_closed hclosed, takenCloses, List.countP_append]
        simp [takenCloses, Except.isOk, Except.toBool]
      | false =>
        by_cases htaken : t = s ∧ c = .close ∧ answer.isOk = true
        · right
          obtain ⟨rfl, rfl, hok⟩ := htaken
          refine ⟨?_, hclosed, ?_⟩
          · rw [command_open hclosed, takenCloses, List.countP_append]
            simp [takenCloses, hok]
          · rw [command_open hclosed, if_pos ⟨rfl, hok⟩, isClosed_iff]
            exact SortedSet.mem_insert.mpr (Or.inl rfl)
        · left
          have hnot : (decide (t = s) && decide (c = .close) && answer.isOk) = false := by
            simpa [Bool.and_eq_true, and_assoc] using htaken
          rw [command_open hclosed, takenCloses, List.countP_append, List.countP_singleton]
          simp [takenCloses, hnot]
    · rw [step_command_of_not_mem ht]
      exact Or.inl rfl

end Steps

section Runs
variable {s : Session} {moves : List (Move κ ε)}

/-- The closed sessions are those that some move of the run has closed. -/
theorem closed_reached_iff (moves : List (Move κ ε)) (s : Session) :
    (s ∈ (reached moves).sessions ∧ (reached moves).registry.isClosed s = true) ↔
      ∃ v ∈ history moves, Closes s v.1 v.2 := by
  induction moves using List.reverseRecOn with
  | nil =>
    constructor
    · rintro ⟨hs, -⟩
      cases hs
    · rintro ⟨v, hv, -⟩
      cases hv
  | append_singleton moves m ih =>
    rw [exists_history_concat, reached_concat, closed_step (sound_reached moves), ih]

/-- An open session belongs to its entry unless a move of the run has orphaned it. -/
theorem holds_or_orphaned (hs : s ∈ (reached moves).sessions)
    (hopen : (reached moves).registry.isClosed s = false) :
    (reached moves).registry.Holds s ∨ ∃ v ∈ history moves, Orphans s v.1 v.2 := by
  induction moves using List.reverseRecOn with
  | nil => cases hs
  | append_singleton moves m ih =>
    have hd := sound_reached moves
    rw [exists_history_concat]
    rw [reached_concat] at hs hopen ⊢
    rcases mem_sessions_step.mp hs with hold | ⟨op, rfl, hnew⟩
    · have hbefore : (reached moves).registry.isClosed s = false := by
        rw [Bool.eq_false_iff] at hopen ⊢
        exact fun hclosed => hopen (isClosed_step hclosed m)
      rcases ih hold hbefore with hholds | horphan
      · by_cases hremoved : ∃ op, m = .operate op ∧ op.ends s.handle = true
        · obtain ⟨op, rfl, hends⟩ := hremoved
          rcases closes_or_orphans hholds hends with hcloses | horphans
          · have hclosed := ((closed_step hd (.operate op)).mpr (Or.inr hcloses)).2
            rw [hclosed] at hopen
            cases hopen
          · exact Or.inr (Or.inr horphans)
        · left
          refine (holds_step hd hold).mpr ⟨hholds, ?_⟩
          intro op hop
          exact Bool.eq_false_iff.mpr fun hends => hremoved ⟨op, hop, hends⟩
      · exact Or.inr (Or.inl horphan)
    · exact Or.inl (holds_of_handedOut hnew)

/-- An orphan belongs to no entry any more. -/
theorem not_holds_of_orphaned (horphan : ∃ v ∈ history moves, Orphans s v.1 v.2) :
    s ∈ (reached moves).sessions ∧ ¬ (reached moves).registry.Holds s := by
  induction moves using List.reverseRecOn with
  | nil =>
    obtain ⟨v, hv, -⟩ := horphan
    cases hv
  | append_singleton moves m ih =>
    have hd := sound_reached moves
    rw [reached_concat]
    rcases exists_history_concat.mp horphan with hold | ⟨op, code, params, rfl, hfailed, hholds⟩
    · obtain ⟨hs, hgone⟩ := ih hold
      exact ⟨mem_sessions_step.mpr (Or.inl hs), fun h => hgone ((holds_step hd hs).mp h).1⟩
    · have hs := hd.current s hholds
      refine ⟨mem_sessions_step.mpr (Or.inl hs), ?_⟩
      intro h
      have hends := ((holds_step hd hs).mp h).2 op rfl
      rw [Registry.Op.ends, hfailed] at hends
      cases hends

theorem takenCloses_reached (moves : List (Move κ ε)) (s : Session) :
    takenCloses s (reached moves) ≤ 1 := by
  have hcount : takenCloses s (reached moves) = 0 ∨
      (takenCloses s (reached moves) = 1 ∧ (reached moves).registry.isClosed s = true) := by
    induction moves using List.reverseRecOn with
    | nil => exact Or.inl rfl
    | append_singleton moves m ih =>
      rw [reached_concat]
      rcases takenCloses_step s (reached moves) m with hsame | ⟨hmore, hopen, hclosed⟩
      · rw [hsame]
        rcases ih with hnone | ⟨hone, hclosed⟩
        · exact Or.inl hnone
        · exact Or.inr ⟨hone, isClosed_step hclosed m⟩
      · rcases ih with hnone | ⟨-, hbefore⟩
        · exact Or.inr ⟨by omega, hclosed⟩
        · rw [hbefore] at hopen
          cases hopen
  omega

theorem isClosed_append (hclosed : (reached moves).registry.isClosed s = true)
    (later : List (Move κ ε)) : (reached (moves ++ later)).registry.isClosed s = true := by
  rw [reached_append]
  exact isClosed_after hclosed later

/-- A session is open until its entry is closed or the adapter takes a close of it, and so long the
adapter answers every command. From then on every command is turned down and none reaches the
adapter, also where the session is delivered only later. -/
theorem closed_for_good (hs : s ∈ (reached moves).sessions) :
    ((reached moves).registry.isClosed s = true ↔ ∃ v ∈ history moves, Closes s v.1 v.2) ∧
      ((reached moves).registry.isClosed s = false → s ∈ (reached moves).held → ∀ c answer,
        ((reached moves).step (.command s c answer)).asked =
            (reached moves).asked ++ [(s.handle, c, answer)] ∧
          ((reached moves).step (.command s c answer)).answered =
            (reached moves).answered ++ [(s, c, answer)] ∧
          (((reached moves).step (.command s c answer)).registry.isClosed s = true ↔
            c = .close ∧ answer = .ok ())) ∧
      ((reached moves).registry.isClosed s = true → ∀ later,
        (reached (moves ++ later)).registry.isClosed s = true ∧
          (s ∈ (reached (moves ++ later)).held → ∀ c answer,
            (reached (moves ++ later)).step (.command s c answer) =
              { reached (moves ++ later) with
                answered := (reached (moves ++ later)).answered ++
                  [(s, c, .error (.sessionClosed s.handle))] })) ∧
      takenCloses s (reached moves) ≤ 1 := by
  refine ⟨?_, ?_, ?_, takenCloses_reached moves s⟩
  · rw [← closed_reached_iff]
    exact (and_iff_right hs).symm
  · intro hopen hheld c answer
    have hclosed : ((reached moves).command s c answer).registry.isClosed s = true ↔
        c = .close ∧ answer = .ok () := by
      rw [isClosed_command]
      simp [hopen]
    rw [step_command hheld]
    refine ⟨?_, ?_, hclosed⟩
    · rw [command_open hopen]
    · rw [command_open hopen]
  · intro hclosed later
    have hlater := isClosed_append hclosed later
    refine ⟨hlater, ?_⟩
    intro hheld c answer
    rw [step_command hheld, command_closed hlater]

/-- The entry is closed while the delivery of the session still waits, and the handle is granted
again before the client comes to hold the session. -/
theorem closed_for_good_before_delivery :
    let s : Session := ⟨⟨1⟩, 0⟩
    let moves : List (Move String String) :=
      [.operate (.openSession (.ok ⟨1⟩) "first" "main"), .operate (.receive ⟨⟨1⟩, .opened⟩),
        .operate (.receive ⟨⟨1⟩, .closed 4 .empty⟩)]
    let later : List (Move String String) :=
      [.operate (.openSession (.ok ⟨1⟩) "second" "main"), .run 0]
    s ∈ (reached moves).sessions ∧ s ∉ (reached moves).held ∧
      ((reached (moves ++ later)).step (.command s .stop (.ok ()))).asked = [] ∧
      ((reached (moves ++ later)).step (.command s .stop (.ok ()))).answered =
        [(s, .stop, .error (.sessionClosed ⟨1⟩))] := by
  intro s moves later
  have hs : s ∈ (reached moves).sessions := by decide
  have hclosed : (reached moves).registry.isClosed s = true := by decide
  have hheld : s ∈ (reached (moves ++ later)).held := by decide
  obtain ⟨-, hturned⟩ := (closed_for_good hs).2.2.1 hclosed later
  rw [hturned hheld .stop (.ok ())]
  exact ⟨hs, by decide, rfl, rfl⟩

/-- An open session belongs to the entry under its handle, unless a failed opening has removed that
entry. Closed with its entry, or without an entry for any other reason, a session reaches the
adapter no more, whatever session its handle names by then. -/
theorem current_unless_orphaned (hs : s ∈ (reached moves).sessions) :
    ((reached moves).registry.isClosed s = false →
        (reached moves).registry.Holds s ∨ ∃ v ∈ history moves, Orphans s v.1 v.2) ∧
      ((∃ v ∈ history moves, Orphans s v.1 v.2) → ¬ (reached moves).registry.Holds s) ∧
      ((reached moves).registry.Holds s → ∀ op, op.closes s.handle = true → ∀ later,
        (reached (moves ++ .operate op :: later)).registry.isClosed s = true) ∧
      (¬ (reached moves).registry.Holds s → (¬ ∃ v ∈ history moves, Orphans s v.1 v.2) →
        ∀ later c answer,
          (reached (moves ++ later)).registry.isClosed s = true ∧
            ((reached (moves ++ later)).step (.command s c answer)).asked =
              (reached (moves ++ later)).asked) := by
  refine ⟨holds_or_orphaned hs, fun horphan => (not_holds_of_orphaned horphan).2, ?_, ?_⟩
  · intro hholds op hcloses later
    have hclosed : (reached (moves ++ [.operate op])).registry.isClosed s = true := by
      rw [reached_concat]
      exact ((closed_operate (sound_reached moves)).mpr (Or.inr ⟨hcloses, hholds⟩)).2
    have hlater := isClosed_append hclosed later
    rwa [List.append_assoc] at hlater
  · intro hgone hno later c answer
    have hclosed : (reached moves).registry.isClosed s = true := by
      by_contra hopen
      rcases holds_or_orphaned hs (Bool.eq_false_iff.mpr hopen) with hholds | horphan
      · exact hgone hholds
      · exact hno horphan
    have hlater := isClosed_append hclosed later
    refine ⟨hlater, ?_⟩
    by_cases hheld : s ∈ (reached (moves ++ later)).held
    · rw [step_command hheld, command_closed hlater]
    · rw [step_command_of_not_mem hheld]

/-- Held and open, a session is closed with its entry, and its handle is granted again. -/
theorem current_unless_orphaned_regrant :
    let s : Session := ⟨⟨1⟩, 0⟩
    let moves : List (Move String String) :=
      [.operate (.openSession (.ok ⟨1⟩) "first" "main"), .operate (.handle ⟨⟨1⟩, .opened⟩), .run 0,
        .command s (.start .empty) (.ok ())]
    let later : List (Move String String) := [.operate (.openSession (.ok ⟨1⟩) "second" "main")]
    s ∈ (reached moves).sessions ∧ (reached moves).registry.isClosed s = false ∧
      (reached moves).registry.Holds s ∧
      (reached (moves ++ .operate (.receive ⟨⟨1⟩, .closed 4 .empty⟩) :: later)).registry.isClosed s =
        true := by
  intro s moves later
  have hs : s ∈ (reached moves).sessions := by decide
  have hholds : (reached moves).registry.Holds s := by decide
  exact ⟨hs, by decide, hholds, (current_unless_orphaned hs).2.2.1 hholds _ rfl later⟩

/-- A session whose entry goes with a failed opening stays open, and commands the adapter under a
handle that was granted to another client. -/
theorem orphan_commands_another_session :
    let s : Session := ⟨⟨1⟩, 0⟩
    let moves : List (Move String String) :=
      [.operate (.openSession (.ok ⟨1⟩) "first" "main"), .operate (.receive ⟨⟨1⟩, .opened⟩), .run 0,
        .operate (.receive ⟨⟨1⟩, .openFailed 3 .empty⟩),
        .operate (.openSession (.ok ⟨1⟩) "second" "main")]
    s ∈ (reached moves).held ∧ (reached moves).registry.isClosed s = false ∧
      ¬ (reached moves).registry.Holds s ∧
      (reached moves).registry.owner? ⟨1⟩ = some ("second", "main") ∧
      ((reached moves).step (.command s .stop (.ok ()))).asked = [(⟨1⟩, .stop, .ok ())] := by
  intro s moves
  exact ⟨by decide, by decide, by decide, by decide, rfl⟩

end Runs

end Rangelink.Desk
