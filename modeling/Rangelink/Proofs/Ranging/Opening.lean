import Rangelink.Proofs.Ranging.Demultiplexing

/-! # Sessions opened to their clients

A client is told once that its session is open, namely when the report of the
opening is the first report under the handle that writes the phase of the session.
A start or a stop that comes first takes the opening away from the client.
-/
namespace Rangelink.Registry
variable {κ ε : Type} {h : Handle} {r : Registry κ ε} {op : Op κ ε} {ops : List (Op κ ε)}
  {owner : κ × ε}

/-- An operation tells a client that the session under a handle is open. -/
def announces (h : Handle) (r : Registry κ ε) (op : Op κ ε) : Bool :=
  ((r.step op).2.bind (·.notice.session?)).any fun s => decide (s.handle = h)

def movesPhase (h : Handle) (op : Op κ ε) : Bool := (op.occurrence? h).any Occurrence.moves

/-- The first occurrence under a handle that writes the phase of the session. -/
def firstMove? (h : Handle) (ops : List (Op κ ε)) : Option Occurrence :=
  (ops.find? (movesPhase h)).bind (·.occurrence? h)

theorem announces_iff :
    announces h r op = true ↔ op.occurrence? h = some .opened ∧ r.phase? h = some .requested := by
  rw [announces, session_told, Option.any_eq_true]
  constructor
  · rintro ⟨s, hs, hh⟩
    obtain rfl := of_decide_eq_true hh
    obtain ⟨hopened, hphase, -⟩ := handedOut?_eq_some_iff.mp hs
    exact ⟨hopened, hphase⟩
  · rintro ⟨hopened, hphase⟩
    refine ⟨⟨h, r.issued⟩, handedOut?_eq_some_iff.mpr ⟨hopened, hphase, rfl⟩, ?_⟩
    exact decide_eq_true rfl

theorem movesPhase_of_opened (ho : op.occurrence? h = some .opened) : movesPhase h op = true := by
  rw [movesPhase, ho]
  rfl

theorem firstMove?_cons (h : Handle) (op : Op κ ε) (rest : List (Op κ ε)) :
    firstMove? h (op :: rest) = if movesPhase h op then op.occurrence? h else firstMove? h rest := by
  unfold firstMove?
  rw [List.find?_cons]
  cases movesPhase h op <;> rfl

/-- Registered, a session stays requested through all occurrences but those that write its phase. -/
theorem requested_step_iff (ho : r.owner? h = some owner) (hends : op.ends h = false) :
    (r.step op).1.phase? h = some .requested ↔
      r.phase? h = some .requested ∧ movesPhase h op = false := by
  obtain ⟨e, he, -⟩ := Option.map_eq_some_iff.mp ho
  rw [phase?_eq_some_iff, phase?_eq_some_iff, get?_step, he, movesPhase]
  cases hoc : op.occurrence? h with
  | none => simp
  | some o =>
    have hfinal : o.isFinal = false := by rwa [Op.ends, hoc] at hends
    simp only [Option.bind_some, Option.any_some, Option.some.injEq]
    constructor
    · rintro ⟨e', hafter, hp⟩
      obtain ⟨rfl, hmoves⟩ := SessionEntry.after_eq_some_requested hafter hp
      exact ⟨⟨e', rfl, hp⟩, hmoves⟩
    · rintro ⟨⟨e', rfl, hp⟩, hmoves⟩
      exact ⟨e, SessionEntry.after_of_not_moves hmoves hfinal, hp⟩

theorem owner?_after_keeps (ho : r.owner? h = some owner) (hl : ∀ op ∈ ops, op.ends h = false) :
    (r.after ops).owner? h = some owner := by
  induction ops generalizing r with
  | nil => exact ho
  | cons op rest ih =>
    obtain ⟨hends, hl⟩ := List.forall_mem_cons.mp hl
    exact ih (owner?_step_keeps ho hends) hl

theorem moves_reported_iff :
    (∀ o ∈ reported h ops, o.moves = false) ↔ ∀ op ∈ ops, movesPhase h op = false := by
  simp only [reported, List.forall_mem_filterMap, movesPhase, Option.any_eq_false]

/-- A session that is requested is announced once if its first move is the opening, and never if it
is not. -/
theorem countP_announces (ho : r.owner? h = some owner)
    (hl : ∀ op ∈ ops.dropLast, op.ends h = false) :
    (r.visits ops).countP (fun v => announces h v.1 v.2) =
      if r.phase? h = some .requested ∧ firstMove? h ops = some .opened then 1 else 0 := by
  induction ops generalizing r with
  | nil => simp [visits, firstMove?]
  | cons op rest ih =>
    have hrest : ((r.step op).1.visits rest).countP (fun v => announces h v.1 v.2) =
        if (r.phase? h = some .requested ∧ movesPhase h op = false) ∧
          firstMove? h rest = some .opened then 1 else 0 := by
      cases rest with
      | nil => simp [visits, firstMove?]
      | cons next rest =>
        obtain ⟨hends, hl⟩ := List.forall_mem_cons.mp hl
        rw [ih (owner?_step_keeps ho hends) hl]
        simp only [requested_step_iff ho hends]
    rw [visits, List.countP_cons, hrest, firstMove?_cons]
    simp only [announces_iff]
    cases hmoves : movesPhase h op with
    | true => simp [and_comm]
    | false =>
      have hnot : op.occurrence? h ≠ some .opened := by
        intro hopened
        rw [movesPhase_of_opened hopened] at hmoves
        cases hmoves
      simp [hnot]

theorem firstMove?_eq_opened_iff (hfirst : ∀ o, firstMove? h ops = some o → o = .opened) :
    firstMove? h ops = some .opened ↔ ∃ op ∈ ops, op.occurrence? h = some .opened := by
  constructor
  · intro hopened
    obtain ⟨op, hfind, ho⟩ := Option.bind_eq_some_iff.mp hopened
    exact ⟨op, List.mem_of_find?_eq_some hfind, ho⟩
  · rintro ⟨op, hop, ho⟩
    have hfound : (ops.find? (movesPhase h)).isSome = true :=
      List.find?_isSome.mpr ⟨op, hop, movesPhase_of_opened ho⟩
    obtain ⟨first, hfind⟩ := Option.isSome_iff_exists.mp hfound
    have hmoves : movesPhase h first = true := List.find?_some hfind
    obtain ⟨o, hoccurs, -⟩ := (Option.any_eq_true _ _).mp hmoves
    have hsome : firstMove? h ops = some o := by rw [firstMove?, hfind, Option.bind_some, hoccurs]
    rw [hsome, hfirst o hsome]

/-- In the life of a session the report of its opening is announced exactly where no opening, start
or stop came before it, to the client and on the executor of the grant. So the session is announced
once if the opening is the first of these, and never if it is not. -/
theorem announced_by_first_opening (i : Incarnation h ops) :
    (∀ earlier op later, i.inside = earlier ++ op :: later →
        (announces h (i.start.after earlier) op = true ↔
          op.occurrence? h = some .opened ∧ ∀ op' ∈ earlier, movesPhase h op' = false) ∧
        (announces h (i.start.after earlier) op = true →
          ((i.start.after earlier).step op).2 =
            some ⟨i.executor, i.client, .opened ⟨h, (i.start.after earlier).issued⟩⟩)) ∧
      ((i.start.visits i.inside).countP fun v => announces h v.1 v.2) =
        (if firstMove? h i.inside = some .opened then 1 else 0) ∧
      ((∀ o, firstMove? h i.inside = some o → o = .opened) →
        ((i.start.visits i.inside).countP fun v => announces h v.1 v.2) =
          if ∃ op ∈ i.inside, op.occurrence? h = some .opened then 1 else 0) := by
  have hcount : ((i.start.visits i.inside).countP fun v => announces h v.1 v.2) =
      if firstMove? h i.inside = some .opened then 1 else 0 := by
    rw [countP_announces i.owner?_start i.lasts]
    simp only [i.phase?_start, true_and]
  refine ⟨?_, hcount, ?_⟩
  · intro earlier op later hsplit
    have hearly := i.lasts_until hsplit
    have howner := owner?_after_keeps i.owner?_start hearly
    have hiff : announces h (i.start.after earlier) op = true ↔
        op.occurrence? h = some .opened ∧ ∀ op' ∈ earlier, movesPhase h op' = false := by
      rw [announces_iff, phase?_after i.phase?_start hearly, Option.some.injEq,
        SessionPhase.ofHistory_eq_requested_iff, moves_reported_iff]
    refine ⟨hiff, ?_⟩
    intro hannounces
    obtain ⟨hopened, hphase⟩ := announces_iff.mp hannounces
    rw [told_eq_due howner (by rw [hopened]; rfl), due, hopened, Option.bind_some, hphase]
    rfl
  · intro hfirst
    rw [hcount]
    simp only [firstMove?_eq_opened_iff hfirst]

/-- A report and two openings with a start between them: the first opening is announced. -/
theorem announced_by_first_opening_repeated :
    let ops : List (Op String String) :=
      [.openSession (.ok ⟨1⟩) "first" "main", .handle ⟨⟨1⟩, .result []⟩, .receive ⟨⟨1⟩, .opened⟩,
        .receive ⟨⟨1⟩, .started .empty⟩, .handle ⟨⟨1⟩, .opened⟩]
    (after (ops.take 2) {}).step (.receive ⟨⟨1⟩, .opened⟩) =
        ((after (ops.take 3) {}), some ⟨"main", "first", .opened ⟨⟨1⟩, 0⟩⟩) ∧
      (((after (ops.take 1) {}).visits (ops.drop 1)).countP fun v => announces ⟨1⟩ v.1 v.2) = 1 := by
  intro ops
  let i : Incarnation ⟨1⟩ ops :=
    { before := []
      client := "first"
      executor := "main"
      inside := ops.drop 1
      rest := []
      split := rfl
      begins := not_live_nil
      lasts := by decide
      ends := Or.inl rfl }
  obtain ⟨hplace, hcount, -⟩ := announced_by_first_opening i
  have hannounced := (hplace (ops.take 2).tail (.receive ⟨⟨1⟩, .opened⟩) (ops.drop 3) rfl).1.mpr
    ⟨rfl, by decide⟩
  have htold := (hplace (ops.take 2).tail (.receive ⟨⟨1⟩, .opened⟩) (ops.drop 3) rfl).2 hannounced
  exact ⟨Prod.ext rfl htold, hcount.trans rfl⟩

/-- The client of a session that is reported stopped and then open is told of the stop only. -/
theorem opening_after_stop_not_announced :
    let ops : List (Op String String) :=
      [.openSession (.ok ⟨1⟩) "first" "main", .receive ⟨⟨1⟩, .stopped⟩, .receive ⟨⟨1⟩, .opened⟩]
    (after (ops.take 2) {}).isRegistered ⟨1⟩ = true ∧
      told ops {} = [⟨"main", "first", .stopped⟩] := by
  decide

end Rangelink.Registry
