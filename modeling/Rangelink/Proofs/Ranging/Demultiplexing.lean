import Rangelink.Proofs.Ranging.Lease

/-! # Sessions told apart

A handle is used by one session after another. Each session of its own, from its
grant to its end, is told of exactly the events under its handle in between, on
the executor of its grant, and no other event queues anything. What it is told of
each depends on nothing but what was reported of it before.
-/
namespace Rangelink.Registry
variable {κ ε : Type}

def after (ops : List (Op κ ε)) (r : Registry κ ε) : Registry κ ε :=
  ops.foldl (fun r op => (r.step op).1) r

/-- The operations of a run, each with the registry that it finds. -/
def visits : List (Op κ ε) → Registry κ ε → List (Registry κ ε × Op κ ε)
  | [], _ => []
  | op :: rest, r => (r, op) :: visits rest (r.step op).1

def told (ops : List (Op κ ε)) (r : Registry κ ε) : List (Delivery κ ε) :=
  (r.visits ops).filterMap fun v => (v.1.step v.2).2

/-- What the owner of a handle is told in the course of a run. -/
def dues (h : Handle) (client : κ) (executor : ε) (ops : List (Op κ ε)) (r : Registry κ ε) :
    List (Delivery κ ε) :=
  (r.visits ops).filterMap fun v => due h client executor v.1 v.2

/-- What the operations report of the session under a handle. -/
def reported (h : Handle) (ops : List (Op κ ε)) : List Occurrence :=
  ops.filterMap (Op.occurrence? h)

/-- A session was granted under the handle that has not ended. -/
def Live (h : Handle) (ops : List (Op κ ε)) : Prop :=
  ∃ before op later, ops = before ++ op :: later ∧ op.Grants h ∧ ∀ op ∈ later, op.ends h = false

/-- One session under a handle, in a run. It begins with a grant while no session is live under the
handle, and lasts until the first operation that ends it, or else to the end of the run. -/
structure Incarnation (h : Handle) (ops : List (Op κ ε)) where
  before : List (Op κ ε)
  client : κ
  executor : ε
  inside : List (Op κ ε)
  rest : List (Op κ ε)
  split : ops = before ++ .openSession (.ok h) client executor :: (inside ++ rest)
  begins : ¬ Live h before
  lasts : ∀ op ∈ inside.dropLast, op.ends h = false
  ends : rest = [] ∨ ∃ op ∈ inside.getLast?, op.ends h = true

def Incarnation.start {h : Handle} {ops : List (Op κ ε)} (i : Incarnation h ops) : Registry κ ε :=
  after (i.before ++ [.openSession (.ok h) i.client i.executor]) {}

section Runs
variable {h : Handle} {r : Registry κ ε} {op : Op κ ε} {ops : List (Op κ ε)}

theorem after_append (ops more : List (Op κ ε)) (r : Registry κ ε) :
    r.after (ops ++ more) = (r.after ops).after more := by
  simp [after]

@[simp] theorem after_singleton (op : Op κ ε) (r : Registry κ ε) :
    r.after [op] = (r.step op).1 := rfl

theorem filterMap_visits_cons {β : Type} (f : Registry κ ε × Op κ ε → Option β) (op : Op κ ε)
    (rest : List (Op κ ε)) (r : Registry κ ε) :
    (r.visits (op :: rest)).filterMap f =
      (f (r, op)).toList ++ ((r.step op).1.visits rest).filterMap f := by
  rw [visits, List.filterMap_cons]
  cases f (r, op) <;> rfl

theorem told_cons (op : Op κ ε) (rest : List (Op κ ε)) (r : Registry κ ε) :
    r.told (op :: rest) = (r.step op).2.toList ++ (r.step op).1.told rest :=
  filterMap_visits_cons _ op rest r

theorem told_append (ops more : List (Op κ ε)) (r : Registry κ ε) :
    r.told (ops ++ more) = r.told ops ++ (r.after ops).told more := by
  induction ops generalizing r with
  | nil => rfl
  | cons op rest ih =>
    rw [List.cons_append, told_cons, told_cons, ih, List.append_assoc]
    rfl

theorem dues_cons (h : Handle) (client : κ) (executor : ε) (op : Op κ ε) (rest : List (Op κ ε))
    (r : Registry κ ε) :
    r.dues h client executor (op :: rest) =
      (due h client executor r op).toList ++ (r.step op).1.dues h client executor rest :=
  filterMap_visits_cons _ op rest r

theorem not_live_nil : ¬ Live h ([] : List (Op κ ε)) := not_exists_split_nil

theorem live_append :
    Live h (ops ++ [op]) ↔ op.Grants h ∨ (Live h ops ∧ op.ends h = false) := exists_split_concat

/-- A handle has an owner as long as a session is live under it. -/
theorem owner?_after (h : Handle) (ops : List (Op κ ε)) :
    ((after ops {}).owner? h).isSome = true ↔ Live h ops := by
  induction ops using List.reverseRecOn with
  | nil =>
    constructor
    · intro ho
      cases ho
    · intro hl
      exact absurd hl not_live_nil
  | append_singleton ops op ih =>
    rw [after_append, after_singleton, live_append, ← ih]
    by_cases hg : op.Grants h
    · obtain ⟨client, executor, rfl⟩ := hg
      rw [owner?_grant]
      cases (after ops {}).owner? h <;> simp [Op.Grants]
    · rw [owner?_step hg]
      cases op.ends h <;> simp [hg]

theorem owner?_after_eq_none (hl : ¬ Live h ops) : (after ops {}).owner? h = none := by
  rw [← owner?_after] at hl
  simpa using hl

theorem owner?_visits {owner : κ × ε} (ho : r.owner? h = some owner)
    (hl : ∀ op ∈ ops.dropLast, op.ends h = false) {v : Registry κ ε × Op κ ε}
    (hv : v ∈ r.visits ops) : v.1.owner? h = some owner := by
  induction ops generalizing r with
  | nil => cases hv
  | cons op rest ih =>
    rcases List.mem_cons.mp hv with rfl | hv
    · exact ho
    · cases rest with
      | nil => cases hv
      | cons next rest =>
        obtain ⟨hends, hl⟩ := List.forall_mem_cons.mp hl
        have hkeeps := owner?_step_keeps ho hends
        exact ih hkeeps hl hv

/-- The jobs that events about an owned handle queue are those that its owner is due. -/
theorem told_about_eq_dues {client : κ} {executor : ε} (ho : r.owner? h = some (client, executor))
    (hl : ∀ op ∈ ops.dropLast, op.ends h = false) :
    ((r.visits ops).filter fun v => (v.2.occurrence? h).isSome).filterMap
      (fun v => (v.1.step v.2).2) = r.dues h client executor ops := by
  unfold dues
  rw [List.filterMap_filter]
  refine List.filterMap_congr ?_
  intro v hv
  cases ha : v.2.occurrence? h with
  | none => simp [due, ha]
  | some o =>
    have htold := told_eq_due (owner?_visits ho hl hv) (by rw [ha]; rfl)
    rw [← htold]
    rfl

theorem Incarnation.owner?_start (i : Incarnation h ops) :
    i.start.owner? h = some (i.client, i.executor) := by
  have hn := owner?_after_eq_none i.begins
  rw [Incarnation.start, after_append, after_singleton, owner?_grant, hn, Option.none_or]

theorem Incarnation.phase?_start (i : Incarnation h ops) : i.start.phase? h = some .requested := by
  have hn := owner?_after_eq_none i.begins
  rw [Incarnation.start, after_append, after_singleton, step_entered hn, phase?,
    SortedMap.get?_insert_self]
  rfl

/-- No operation but the last ends the session. -/
theorem Incarnation.lasts_until (i : Incarnation h ops) {earlier later : List (Op κ ε)} {op : Op κ ε}
    (hsplit : i.inside = earlier ++ op :: later) : ∀ op' ∈ earlier, op'.ends h = false := by
  intro op' hop'
  refine i.lasts op' ?_
  rw [hsplit, List.dropLast_append_of_ne_nil (List.cons_ne_nil op later)]
  exact List.mem_append_left _ hop'

theorem reported_concat (h : Handle) (ops : List (Op κ ε)) (op : Op κ ε) :
    reported h (ops ++ [op]) = reported h ops ++ (op.occurrence? h).toList := by
  rw [reported, List.filterMap_append]
  cases ho : op.occurrence? h <;> simp [reported, ho]

/-- As long as a session lasts, its phase is the one that its history tells. -/
theorem phase?_after (hr : r.phase? h = some .requested) (hl : ∀ op ∈ ops, op.ends h = false) :
    (r.after ops).phase? h = some (.ofHistory (reported h ops)) := by
  induction ops using List.reverseRecOn with
  | nil => exact hr
  | append_singleton ops op ih =>
    obtain ⟨hl, hlast⟩ := List.forall_mem_append.mp hl
    have hends := hlast op List.mem_cons_self
    obtain ⟨e, he, hp⟩ := phase?_eq_some_iff.mp (ih hl)
    rw [after_append, after_singleton, phase?, get?_step, he, reported_concat]
    cases ho : op.occurrence? h with
    | none => simp [hp]
    | some o =>
      rw [Op.ends, ho] at hends
      exact SessionEntry.phase_after hp hends

/-- A session is live under a handle if it reaches the end of the run without an end of its own. -/
theorem live_iff_incarnation :
    Live h ops ↔ ∃ i : Incarnation h ops, i.rest = [] ∧ ∀ op ∈ i.inside, op.ends h = false := by
  constructor
  · induction ops using List.reverseRecOn with
    | nil =>
      intro hl
      exact absurd hl not_live_nil
    | append_singleton ops op ih =>
      intro hl
      -- the last operation happens within the live session, or is the grant of a new one
      by_cases hlive : Live h ops ∧ op.ends h = false
      · obtain ⟨i, hrest, hinside⟩ := ih hlive.1
        refine ⟨⟨i.before, i.client, i.executor, i.inside ++ [op], [], ?_, i.begins, ?_,
          Or.inl rfl⟩, rfl, ?_⟩
        · have hsplit := i.split
          rw [hrest, List.append_nil] at hsplit
          simpa using congrArg (· ++ [op]) hsplit
        · rw [List.dropLast_concat]
          exact hinside
        · intro x hx
          rcases List.mem_append.mp hx with hx | hx
          · exact hinside x hx
          · rw [List.mem_singleton.mp hx]
            exact hlive.2
      · have hgrant := (live_append.mp hl).resolve_right hlive
        have hnew : ¬ Live h ops := by
          intro hold
          exact hlive ⟨hold, hgrant.ends h⟩
        obtain ⟨client, executor, rfl⟩ := hgrant
        exact ⟨⟨ops, client, executor, [], [], rfl, hnew, by simp, Or.inl rfl⟩, rfl, by simp⟩
  · rintro ⟨i, hrest, hinside⟩
    refine ⟨i.before, _, i.inside, ?_, ⟨i.client, i.executor, rfl⟩, hinside⟩
    have hsplit := i.split
    rwa [hrest, List.append_nil] at hsplit

/-- A client comes to own a handle only by asking for a session. -/
theorem owner?_step_ne {client : κ} (hnew : op.client? ≠ some client)
    (hold : ∀ executor, r.owner? h ≠ some (client, executor)) (executor : ε) :
    (r.step op).1.owner? h ≠ some (client, executor) := by
  intro ho
  by_cases hg : op.Grants h
  · obtain ⟨client', executor', rfl⟩ := hg
    rw [owner?_grant] at ho
    rcases Option.or_eq_some_iff.mp ho with ho | ⟨-, ho⟩
    · exact hold executor ho
    · cases ho
      exact hnew rfl
  · rw [owner?_step hg] at ho
    split at ho
    · cases ho
    · exact hold executor ho

end Runs

section Clients
variable {h : Handle} {client : κ} {executor : ε} {r : Registry κ ε} {op : Op κ ε}
  {ops : List (Op κ ε)}

def Absent (client : κ) (r : Registry κ ε) : Prop :=
  ∀ h executor, r.owner? h ≠ some (client, executor)

/-- A client with one session. -/
structure Sole (h : Handle) (client : κ) (executor : ε) (r : Registry κ ε) : Prop where
  owner : r.owner? h = some (client, executor)
  others : ∀ h', h' ≠ h → ∀ executor', r.owner? h' ≠ some (client, executor')

theorem Absent.step (ha : Absent client r) (hnew : op.client? ≠ some client) :
    Absent client (r.step op).1 := by
  intro h
  exact owner?_step_ne hnew (ha h)

theorem Absent.grant (ha : Absent client r) (hn : r.owner? h = none) (executor : ε) :
    Sole h client executor (r.step (.openSession (.ok h) client executor)).1 := by
  constructor
  · rw [owner?_grant, hn, Option.none_or]
  · intro h' hh executor' ho
    have hg : ¬ Op.Grants h' (.openSession (.ok h) client executor) := by
      rintro ⟨client', executor'', heq⟩
      cases heq
      exact hh rfl
    rw [owner?_step hg] at ho
    exact ha h' executor' ho

theorem Sole.step (hs : Sole h client executor r) (hnew : op.client? ≠ some client)
    (hends : op.ends h = false) : Sole h client executor (r.step op).1 := by
  constructor
  · exact owner?_step_keeps hs.owner hends
  · intro h' hh
    exact owner?_step_ne hnew (hs.others h' hh)

theorem Sole.step_ends (hs : Sole h client executor r) (hnew : op.client? ≠ some client)
    (hends : op.ends h = true) : Absent client (r.step op).1 := by
  intro h'
  by_cases hh : h' = h
  · intro executor' ho
    rw [hh, owner?_step_ends hends] at ho
    cases ho
  · exact owner?_step_ne hnew (hs.others h' hh)

theorem Sole.after (hs : Sole h client executor r) (hnew : ∀ op ∈ ops, op.client? ≠ some client)
    (hl : ∀ op ∈ ops, op.ends h = false) : Sole h client executor (r.after ops) := by
  induction ops generalizing r with
  | nil => exact hs
  | cons op rest ih =>
    obtain ⟨hop, hnew⟩ := List.forall_mem_cons.mp hnew
    obtain ⟨hends, hl⟩ := List.forall_mem_cons.mp hl
    exact ih (hs.step hop hends) hnew hl

/-- The client of a session has none any more after the operation that ends it. -/
theorem Sole.after_ends (hs : Sole h client executor r)
    (hnew : ∀ op ∈ ops, op.client? ≠ some client) (hl : ∀ op ∈ ops.dropLast, op.ends h = false)
    (hlast : op ∈ ops.getLast?) (hends : op.ends h = true) : Absent client (r.after ops) := by
  obtain ⟨early, rfl⟩ := List.getLast?_eq_some_iff.mp hlast
  rw [List.dropLast_concat] at hl
  obtain ⟨hearly, hop⟩ := List.forall_mem_append.mp hnew
  rw [after_append, after_singleton]
  exact (hs.after hearly hl).step_ends (hop op List.mem_cons_self) hends

variable [DecidableEq κ]

def toldTo (client : κ) (ops : List (Op κ ε)) (r : Registry κ ε) : List (Delivery κ ε) :=
  (r.told ops).filter fun d => decide (d.client = client)

theorem toldTo_append (client : κ) (ops more : List (Op κ ε)) (r : Registry κ ε) :
    r.toldTo client (ops ++ more) = r.toldTo client ops ++ (r.after ops).toldTo client more := by
  unfold toldTo
  rw [told_append, List.filter_append]

theorem toldTo_singleton (client : κ) (op : Op κ ε) (r : Registry κ ε) :
    r.toldTo client [op] = (r.step op).2.toList.filter fun d => decide (d.client = client) := by
  rw [toldTo, told_cons]
  exact congrArg _ (List.append_nil _)

theorem toldTo_cons (client : κ) (op : Op κ ε) (rest : List (Op κ ε)) (r : Registry κ ε) :
    r.toldTo client (op :: rest) = r.toldTo client [op] ++ (r.step op).1.toldTo client rest :=
  toldTo_append client [op] rest r

theorem toldTo_eq_nil (hnew : op.client? ≠ some client)
    (hother : ∀ h, (op.occurrence? h).isSome = true →
      ∀ executor, r.owner? h ≠ some (client, executor)) :
    r.toldTo client [op] = [] := by
  rw [toldTo_singleton]
  refine List.filter_eq_nil_iff.mpr ?_
  intro d hd hclient
  have htold : (r.step op).2 = some d := Option.mem_toList.mp hd
  have hclient : d.client = client := of_decide_eq_true hclient
  subst hclient
  rcases client_of_told htold with hasked | ⟨h, habout, howner⟩
  · exact hnew hasked
  · exact hother h habout _ howner

theorem Absent.after (ha : Absent client r) (hnew : ∀ op ∈ ops, op.client? ≠ some client) :
    r.toldTo client ops = [] ∧ Absent client (r.after ops) := by
  induction ops generalizing r with
  | nil => exact ⟨rfl, ha⟩
  | cons op rest ih =>
    obtain ⟨hop, hnew⟩ := List.forall_mem_cons.mp hnew
    obtain ⟨htold, hrest⟩ := ih (ha.step hop) hnew
    refine ⟨?_, hrest⟩
    rw [toldTo_cons, htold, toldTo_eq_nil hop fun h _ => ha h]
    rfl

theorem Sole.toldTo_step (hs : Sole h client executor r) (hnew : op.client? ≠ some client) :
    r.toldTo client [op] = (due h client executor r op).toList := by
  cases ha : op.occurrence? h with
  | none =>
    have hdue : due h client executor r op = none := by rw [due, ha, Option.bind_none]
    rw [hdue]
    refine toldTo_eq_nil hnew ?_
    intro h' habout
    refine hs.others h' ?_
    rintro rfl
    rw [ha] at habout
    cases habout
  | some o =>
    have habout : (op.occurrence? h).isSome = true := by rw [ha]; rfl
    rw [toldTo_singleton, told_eq_due hs.owner habout]
    simp only [due, ha, Option.bind_some]
    cases o.notice? (r.phase? h) ⟨h, r.issued⟩ <;> simp

theorem Sole.toldTo (hs : Sole h client executor r) (hnew : ∀ op ∈ ops, op.client? ≠ some client)
    (hl : ∀ op ∈ ops.dropLast, op.ends h = false) :
    r.toldTo client ops = r.dues h client executor ops := by
  induction ops generalizing r with
  | nil => rfl
  | cons op rest ih =>
    obtain ⟨hop, hnew⟩ := List.forall_mem_cons.mp hnew
    rw [toldTo_cons, dues_cons, hs.toldTo_step hop]
    cases rest with
    | nil => rfl
    | cons next rest =>
      obtain ⟨hends, hl⟩ := List.forall_mem_cons.mp hl
      have hrest := ih (hs.step hop hends) hnew hl
      rw [hrest]

/-- A client that asked for one session only is told, in the whole run, what it is due for that
session. -/
theorem Incarnation.toldTo_eq_dues (i : Incarnation h ops)
    (hnew : ∀ op ∈ i.before ++ i.inside ++ i.rest, op.client? ≠ some i.client) :
    toldTo i.client ops {} = i.start.dues h i.client i.executor i.inside := by
  obtain ⟨hnew, hnewRest⟩ := List.forall_mem_append.mp hnew
  obtain ⟨hnewBefore, hnewInside⟩ := List.forall_mem_append.mp hnew
  -- the client has no session before the grant, one until the end, and none from then on
  have habsent : Absent i.client ({} : Registry κ ε) := by
    intro h' executor' ho
    cases ho
  obtain ⟨hbefore, hidle⟩ := habsent.after hnewBefore
  have hn := owner?_after_eq_none i.begins
  have hsole := hidle.grant hn i.executor
  have hstart : i.start = ((after i.before {}).step (.openSession (.ok h) i.client i.executor)).1 := by
    rw [Incarnation.start, after_append, after_singleton]
  rw [← hstart] at hsole
  have hinside := hsole.toldTo hnewInside i.lasts
  have hrest : toldTo i.client i.rest (i.start.after i.inside) = [] := by
    rcases i.ends with hnil | ⟨op, hlast, hends⟩
    · rw [hnil]
      rfl
    · exact ((hsole.after_ends hnewInside i.lasts hlast hends).after hnewRest).1
  have hentered : (after i.before {}).toldTo i.client [.openSession (.ok h) i.client i.executor] =
      [] := by
    rw [toldTo_singleton, step_entered hn]
    rfl
  calc toldTo i.client ops {}
      = toldTo i.client (i.before ++ .openSession (.ok h) i.client i.executor ::
          (i.inside ++ i.rest)) {} := congrArg (toldTo i.client · {}) i.split
    _ = i.start.toldTo i.client (i.inside ++ i.rest) := by
        rw [toldTo_append, hbefore, List.nil_append, toldTo_cons, hentered, List.nil_append, hstart]
    _ = i.start.dues h i.client i.executor i.inside := by
        rw [toldTo_append, hinside, hrest, List.append_nil]

/-- Each session is told of exactly the events under its handle between its grant and its end, in
order and on the executor of its grant; the phase that this depends on is the one that the events
under the handle have told since the grant. No other event queues anything or changes anything, and
a grant under a handle that is taken queues one closing for the newcomer. -/
theorem told_per_incarnation (h : Handle) (ops : List (Op κ ε)) :
    (∀ i : Incarnation h ops,
      ((i.start.visits i.inside).filter fun v => (v.2.occurrence? h).isSome).filterMap
          (fun v => (v.1.step v.2).2) = i.start.dues h i.client i.executor i.inside ∧
        ((∀ op ∈ i.before ++ i.inside ++ i.rest, op.client? ≠ some i.client) →
          toldTo i.client ops {} = i.start.dues h i.client i.executor i.inside) ∧
        ∀ earlier op later, i.inside = earlier ++ op :: later →
          due h i.client i.executor (i.start.after earlier) op = (op.occurrence? h).bind fun o =>
            (o.notice? (some (.ofHistory (reported h earlier)))
              ⟨h, (i.start.after earlier).issued⟩).map (Delivery.mk i.executor i.client)) ∧
      (Live h ops ↔
        ∃ i : Incarnation h ops, i.rest = [] ∧ ∀ op ∈ i.inside, op.ends h = false) ∧
      ((after ops {}).isRegistered h = true ↔ Live h ops) ∧
      (¬ Live h ops →
        (∀ op, (op.occurrence? h).isSome = true → (after ops {}).step op = (after ops {}, none)) ∧
        ∀ client executor,
          ((after ops {}).step (.openSession (.ok h) client executor)).2 = none) ∧
      (Live h ops → ∀ client executor,
        (after ops {}).step (.openSession (.ok h) client executor) =
          (after ops {}, some ⟨executor, client, .closed .unknown .empty⟩)) ∧
      ∀ e client executor,
        (after ops {}).step (.openSession (.error e) client executor) = (after ops {}, none) := by
  refine ⟨?_, live_iff_incarnation, ?_, ?_, ?_, ?_⟩
  · intro i
    refine ⟨told_about_eq_dues i.owner?_start i.lasts, i.toldTo_eq_dues, ?_⟩
    intro earlier op later hsplit
    rw [due, phase?_after i.phase?_start (i.lasts_until hsplit)]
  · rw [isRegistered_eq, owner?_after]
  · intro hl
    have hn := owner?_after_eq_none hl
    refine ⟨?_, ?_⟩
    · intro op ha
      exact step_unowned hn ha
    · intro client executor
      rw [step_entered hn]
  · intro hl client executor
    exact step_taken ((owner?_after h ops).mpr hl) client executor
  · intro e client executor
    exact step_refused e client executor _

/-- Between the grant and the end of a session, its handle is granted again to another client, and an
event about another handle arrives; after the end, its handle is unknown. -/
theorem told_per_incarnation_collision :
    let ops : List (Op String String) :=
      [.openSession (.ok ⟨1⟩) "first" "main", .receive ⟨⟨1⟩, .opened⟩,
        .openSession (.ok ⟨1⟩) "second" "other", .handle ⟨⟨2⟩, .stopped⟩,
        .receive ⟨⟨1⟩, .opened⟩, .handle ⟨⟨1⟩, .closed 4 .empty⟩, .receive ⟨⟨1⟩, .stopped⟩]
    toldTo "first" ops {} =
      [⟨"main", "first", .opened ⟨⟨1⟩, 0⟩⟩, ⟨"main", "first", .closed .remoteRequest .empty⟩] := by
  intro ops
  let i : Incarnation ⟨1⟩ ops :=
    { before := []
      client := "first"
      executor := "main"
      inside := (ops.drop 1).take 5
      rest := ops.drop 6
      split := rfl
      begins := not_live_nil
      lasts := by decide
      ends := Or.inr ⟨_, rfl, rfl⟩ }
  have hnew : ∀ op ∈ i.before ++ i.inside ++ i.rest, op.client? ≠ some i.client := by decide
  exact (((told_per_incarnation ⟨1⟩ ops).1 i).2.1 hnew).trans rfl

end Clients

end Rangelink.Registry
