import Mathlib.Algebra.Group.Nat.Defs
import Mathlib.Tactic.SplitIfs
import Rangelink.Agent
import Rangelink.Proofs.Ranging.Step

/-! # One session from its opening to its end

What belongs to one session makes a strand: the events to come, the entry in the
registry, the notices for the handler, the handler and its commands. Left to
itself a strand plays out a script, in which every event has its notice.
-/
namespace Rangelink

/-- The handle of the session in a place, the first of which is zero. -/
def Handle.nth (place : Nat) : Handle := ⟨Int32.ofNat (place + 1)⟩

def Session.nth (place : Nat) : Session := ⟨.nth place, place⟩

theorem Handle.nth_inj {i j : Nat} (hi : i < 2 ^ 31) (hj : j < 2 ^ 31) :
    nth i = nth j ↔ i = j := by
  constructor
  · intro h
    have hnumber := congrArg (fun h : Handle => h.number.toBitVec.toNat) h
    simp [nth, Int32.toBitVec_ofNat'] at hnumber
    omega
  · rintro rfl
    rfl

/-- `heard` are the notices that the handler was given, and `ended` says that the lease of the
session has ended. -/
structure Strand where
  coming : List Occurrence
  entry : Option (SessionEntry Nat Unit)
  waiting : List Notice
  heard : List Notice
  handler : Option RangingHandler
  ended : Bool
  calls : List SessionCommand

namespace Strand

/-- The registry takes in the oldest event of the session in a place. -/
def deliver (place : Nat) (x : Strand) : Strand :=
  match x.coming, x.entry with
  | o :: rest, some e =>
    { x with
      coming := rest
      entry := e.after place o
      waiting := x.waiting ++ (o.notice? (some e.phase) (.nth place)).toList
      ended := x.ended || (o.isClosing && decide (e.lease = some place)) }
  | _, _ => x

/-- The adapter takes a command of the handler, unless the lease has ended. -/
def obey (reports place : Nat) (x : Strand) : Option SessionCommand → Strand
  | none => x
  | some c =>
    if x.ended then x
    else
      { x with
        coming := x.coming ++ (Adapter.response reports (.nth place) c).map (·.occurrence)
        ended := decide (c = .close)
        calls := x.calls ++ [c] }

/-- The handler hears the oldest notice. -/
def run (reports place : Nat) (x : Strand) : Strand :=
  match x.waiting, x.handler with
  | notice :: rest, some h =>
    ({ x with
      waiting := rest
      heard := x.heard ++ [notice]
      handler := some (h.hear notice).1 } : Strand).obey reports place ((h.hear notice).2.map (·.2))
  | _, _ => x

end Strand

/-- `reports` follow a start, and a handler closes its session with the report numbered
`closeAfter`. -/
structure Script where
  reports : Nat
  closeAfter : Nat

namespace Script
variable {s : Script} {place d j : Nat}

/-- The handler comes to close its session. -/
def Closes (s : Script) : Prop := 1 ≤ s.closeAfter ∧ s.closeAfter ≤ s.reports

instance (s : Script) : Decidable s.Closes := inferInstanceAs (Decidable (_ ∧ _))

/-- The handler has ordered the close by the time it heard `j` notices. -/
def Ordered (s : Script) (j : Nat) : Prop := s.Closes ∧ 2 + s.closeAfter ≤ j

instance (s : Script) (j : Nat) : Decidable (s.Ordered j) := inferInstanceAs (Decidable (_ ∧ _))

/-- What happens to a session and what its handler hears of it. -/
def course (s : Script) (place : Nat) : List (Occurrence × Notice) :=
  [(.opened, .opened (.nth place)),
    (.started (Agent.sessionParams place), .started (Agent.sessionParams place))] ++
  (List.range s.reports).map (fun i =>
    (.result (Adapter.reportOf (.nth place) i), .report (Adapter.reportOf (.nth place) i))) ++
  if s.Closes then [(.closed ChangeReason.localApi.code .empty, .closed .localRequest .empty)]
  else []

/-- How many events the adapter has reported once the handler heard `j` notices. -/
def reported (s : Script) (j : Nat) : Nat :=
  if j = 0 then 1
  else if s.Ordered j then 3 + s.reports
  else 2 + s.reports

/-- The entry after `d` events. -/
def entry (s : Script) (place d : Nat) : Option (SessionEntry Nat Unit) :=
  if d = 0 then some { client := place, executor := () }
  else if d = 1 then some { client := place, executor := (), phase := .idle, lease := some place }
  else if d < 3 + s.reports then
    some { client := place, executor := (), phase := .active, lease := some place }
  else none

/-- The handler after `j` notices. -/
def handler (s : Script) (place j : Nat) : RangingHandler where
  startParams := Agent.sessionParams place
  closeAfter := s.closeAfter
  reports := min (j - 2) s.reports
  session := if j = 0 ∨ 3 + s.reports ≤ j then none else some (.nth place)

/-- The commands given before the handler hears the notice numbered `j`. -/
def calls (s : Script) (place j : Nat) : List SessionCommand :=
  if j = 0 then []
  else .start (Agent.sessionParams place) ::
    if s.Ordered j then [.close] else []

/-- The strand when the registry took in `d` events and the handler heard `j` notices. -/
def strand (s : Script) (place d j : Nat) : Strand where
  coming := (((s.course place).take (s.reported j)).drop d).map (·.1)
  entry := s.entry place d
  waiting := (((s.course place).take d).drop j).map (·.2)
  heard := ((s.course place).take j).map (·.2)
  handler := some (s.handler place j)
  ended := decide (s.Ordered j)
  calls := s.calls place j

theorem length_course (s : Script) (place : Nat) :
    (s.course place).length = 2 + s.reports + if s.Closes then 1 else 0 := by
  unfold course
  split <;> simp <;> omega

theorem reported_le (s : Script) (place j : Nat) : s.reported j ≤ (s.course place).length := by
  rw [length_course]
  unfold reported
  by_cases hc : s.Closes
  · simp only [hc, if_true]
    split_ifs <;> omega
  · simp only [hc, Ordered, false_and, if_false]
    split_ifs <;> omega

/-- The stages of a script. -/
theorem getElem?_course {o : Occurrence} {notice : Notice}
    (h : (s.course place)[d]? = some (o, notice)) :
    (d = 0 ∧ o = .opened ∧ notice = .opened (.nth place)) ∨
      (d = 1 ∧ o = .started (Agent.sessionParams place) ∧
        notice = .started (Agent.sessionParams place)) ∨
      (∃ i, i < s.reports ∧ d = 2 + i ∧ o = .result (Adapter.reportOf (.nth place) i) ∧
        notice = .report (Adapter.reportOf (.nth place) i)) ∨
      (s.Closes ∧ d = 2 + s.reports ∧ o = .closed ChangeReason.localApi.code .empty ∧
        notice = .closed .localRequest .empty) := by
  unfold course at h
  rcases Nat.lt_or_ge d (2 + s.reports) with hd | hd
  · rw [List.getElem?_append_left (by simp; omega)] at h
    match d, hd, h with
    | 0, _, h => simp_all
    | 1, _, h => simp_all
    | i + 2, hd, h =>
      right; right; left
      have hi : i < s.reports := by omega
      simp [hi] at h
      exact ⟨i, hi, by omega, h.1.symm, h.2.symm⟩
  · right; right; right
    rw [List.getElem?_append_right (by simp; omega)] at h
    split at h
    · rename_i hcloses
      rw [List.getElem?_singleton] at h
      split at h
      · rename_i hlast
        cases h
        simp at hlast
        exact ⟨hcloses, by omega, rfl, rfl⟩
      · cases h
    · simp at h

theorem coming_eq_nil_iff : (s.strand place d j).coming = [] ↔ s.reported j ≤ d := by
  have hlen := s.reported_le place j
  simp only [strand, List.map_eq_nil_iff, List.drop_eq_nil_iff, List.length_take]
  omega

theorem waiting_eq_nil_iff (hd : d ≤ s.reported j) :
    (s.strand place d j).waiting = [] ↔ d ≤ j := by
  have hlen := s.reported_le place j
  simp only [strand, List.map_eq_nil_iff, List.drop_eq_nil_iff, List.length_take]
  omega

/-- One more event, if the adapter has reported it. -/
theorem coming_cons (place : Nat) (hd : d < s.reported j) :
    ∃ o notice, (s.course place)[d]? = some (o, notice) ∧
      (s.strand place d j).coming = o :: (s.strand place (d + 1) j).coming := by
  have hlen := s.reported_le place j
  have hlt : d < ((s.course place).take (s.reported j)).length := by
    rw [List.length_take]
    omega
  refine ⟨((s.course place)[d]).1, ((s.course place)[d]).2, List.getElem?_eq_getElem _, ?_⟩
  simp only [strand]
  rw [List.drop_eq_getElem_cons hlt, List.map_cons, List.getElem_take]

theorem waiting_concat (hj : j ≤ d) {o : Occurrence} {notice : Notice}
    (h : (s.course place)[d]? = some (o, notice)) :
    (s.strand place (d + 1) j).waiting = (s.strand place d j).waiting ++ [notice] := by
  obtain ⟨hlt, -⟩ := List.getElem?_eq_some_iff.mp h
  have hj' : j ≤ ((s.course place).take d).length := by
    rw [List.length_take]
    omega
  simp only [strand]
  rw [List.take_add_one, h, List.drop_append_of_le_length hj', List.map_append]
  rfl

/-- Every event of the script finds its entry, changes it, and has its notice. -/
theorem entry_course {o : Occurrence} {notice : Notice}
    (h : (s.course place)[d]? = some (o, notice)) :
    ∃ e, s.entry place d = some e ∧ e.client = place ∧
      (∀ lease, e.lease = some lease → lease = place) ∧
      e.after place o = s.entry place (d + 1) ∧
      o.notice? (some e.phase) (.nth place) = some notice ∧
      (o.isClosing = true → d = 2 + s.reports) := by
  rcases getElem?_course h with ⟨rfl, rfl, rfl⟩ | ⟨rfl, rfl, rfl⟩ | ⟨i, hi, rfl, rfl, rfl⟩ |
    ⟨hcloses, rfl, rfl, rfl⟩
  · refine ⟨_, rfl, rfl, ?_, rfl, rfl, ?_⟩
    · intro lease h
      cases h
    · intro h
      cases h
  · refine ⟨_, rfl, rfl, ?_, ?_, rfl, ?_⟩
    · intro lease h
      exact (Option.some.inj h).symm
    · have hlt : 2 < 3 + s.reports := by omega
      simp [entry, SessionEntry.after, hlt]
    · intro h
      cases h
  · have hlt : 2 + i < 3 + s.reports := by omega
    have hlt' : 2 + i + 1 < 3 + s.reports := by omega
    refine ⟨{ client := place, executor := (), phase := .active, lease := some place }, ?_, rfl, ?_,
      ?_, rfl, ?_⟩
    · simp [entry, hlt]
      omega
    · intro lease h
      exact (Option.some.inj h).symm
    · simp [entry, hlt', SessionEntry.after]
    · intro h
      cases h
  · refine ⟨{ client := place, executor := (), phase := .active, lease := some place }, ?_, rfl, ?_,
      ?_, rfl, fun _ => rfl⟩
    · simp [entry]
      omega
    · intro lease h
      exact (Option.some.inj h).symm
    · simp [entry, SessionEntry.after]
      omega

theorem ordered_of_reported (h : 2 + s.reports < s.reported j) : s.Ordered j := by
  by_cases ho : s.Ordered j
  · exact ho
  · simp only [reported, ho, if_false] at h
    split_ifs at h <;> omega

theorem strand_deliver (hj : j ≤ d) (hd : d < s.reported j) :
    (s.strand place d j).deliver place = s.strand place (d + 1) j := by
  obtain ⟨o, notice, hcourse, hcoming⟩ := coming_cons place hd
  obtain ⟨e, hentry, -, -, hafter, hnotice, hclosing⟩ := entry_course hcourse
  have hended : ((s.strand place d j).ended || (o.isClosing && decide (e.lease = some place))) =
      (s.strand place (d + 1) j).ended := by
    cases hc : o.isClosing with
    | false => simp [strand]
    | true =>
      -- the adapter reports the closing only after the command to close
      have hlast := hclosing hc
      have hordered := ordered_of_reported (hlast ▸ hd)
      simp [strand, hordered]
  have hentry' : (s.strand place d j).entry = some e := hentry
  simp only [Strand.deliver, hcoming, hentry']
  rw [hended, hnotice, hafter, Option.toList_some, ← waiting_concat hj hcourse]
  rfl

/-- The command with which the handler answers the notice numbered `j`. -/
def answer (s : Script) (place j : Nat) : Option SessionCommand :=
  if j = 0 then some (.start (Agent.sessionParams place))
  else if s.Closes ∧ j = 1 + s.closeAfter then some .close
  else none

theorem handler_active {i : Nat} (hi : i ≤ s.reports) :
    s.handler place (2 + i) =
      ⟨Agent.sessionParams place, s.closeAfter, i, some (.nth place)⟩ := by
  have hcount : min (2 + i - 2) s.reports = i := by omega
  have hlt : ¬ (2 + i = 0 ∨ 3 + s.reports ≤ 2 + i) := by omega
  simp only [handler, hcount, hlt, if_false]

theorem hear_course {o : Occurrence} {notice : Notice}
    (h : (s.course place)[j]? = some (o, notice)) :
    (s.handler place j).hear notice =
      (s.handler place (j + 1), (s.answer place j).map fun c => (.nth place, c)) := by
  rcases getElem?_course h with ⟨rfl, rfl, rfl⟩ | ⟨rfl, rfl, rfl⟩ | ⟨i, hi, rfl, rfl, rfl⟩ |
    ⟨-, rfl, rfl, rfl⟩
  · have hlt : ¬ 3 + s.reports ≤ 1 := by omega
    simp [handler, RangingHandler.hear, answer, hlt]
  · have hlt : ¬ 3 + s.reports ≤ 1 := by omega
    have hanswer : s.answer place 1 = none := by
      rw [answer, if_neg (by omega), if_neg]
      rintro ⟨⟨hone, -⟩, hc⟩
      omega
    have hafter : s.handler place (1 + 1) = _ := handler_active (i := 0) (Nat.zero_le _)
    rw [hanswer, hafter]
    simp [handler, RangingHandler.hear, hlt]
  · have hafter : s.handler place (2 + i + 1) = _ := handler_active (i := i + 1) hi
    rw [handler_active (Nat.le_of_lt hi), hafter]
    by_cases hk : i + 1 = s.closeAfter
    · have hanswer : s.answer place (2 + i) = some .close := by
        rw [answer, if_neg (by omega), if_pos]
        unfold Closes
        omega
      rw [hanswer]
      simp [RangingHandler.hear, RangingHandler.order, hk]
    · have hanswer : s.answer place (2 + i) = none := by
        rw [answer, if_neg (by omega), if_neg]
        rintro ⟨-, hc⟩
        omega
      rw [hanswer]
      simp [RangingHandler.hear, hk]
  · have hend : 3 + s.reports ≤ 2 + s.reports + 1 := by omega
    have hanswer : s.answer place (2 + s.reports) = none := by
      rw [answer, if_neg (by omega), if_neg]
      rintro ⟨⟨-, hle⟩, hc⟩
      omega
    rw [hanswer]
    simp [handler, RangingHandler.hear, hend]

theorem ordered_succ (s : Script) (j : Nat) :
    s.Ordered (j + 1) ↔ s.Ordered j ∨ (s.Closes ∧ j = 1 + s.closeAfter) := by
  unfold Ordered Closes
  omega

theorem take_started (s : Script) (place : Nat) :
    (((s.course place).take (2 + s.reports)).drop 1).map (·.1) =
      (Adapter.response s.reports (.nth place) (.start (Agent.sessionParams place))).map
        (·.occurrence) := by
  rw [course, List.take_left' (by simp; omega)]
  simp [Adapter.response]

theorem take_closed (hc : s.Closes) (place : Nat) :
    (((s.course place).take (3 + s.reports)).drop (2 + s.reports)).map (·.1) =
      (Adapter.response s.reports (.nth place) .close).map (·.occurrence) := by
  have hlen := s.length_course place
  rw [if_pos hc] at hlen
  rw [List.take_of_length_le (by omega), course, List.drop_left' (by simp; omega), if_pos hc]
  rfl

theorem reported_of_ordered (h : s.Ordered j) : s.reported j = 3 + s.reports := by
  have hj : j ≠ 0 := by
    have hle := h.2
    omega
  rw [reported, if_neg hj, if_pos h]

theorem reported_of_not_ordered (hj : j ≠ 0) (h : ¬ s.Ordered j) :
    s.reported j = 2 + s.reports := by
  rw [reported, if_neg hj, if_neg h]

theorem reported_mono (s : Script) (j : Nat) : s.reported j ≤ s.reported (j + 1) := by
  by_cases ho : s.Ordered j
  · have hlater := reported_of_ordered ((ordered_succ s j).mpr (Or.inl ho))
    exact Nat.le_of_eq ((reported_of_ordered ho).trans hlater.symm)
  · have hsucc : ¬ j + 1 = 0 := by omega
    simp only [reported, ho, hsucc, if_false]
    split_ifs <;> omega

/-- The answer of the handler makes the adapter report what comes next in the script. -/
theorem coming_answer (place : Nat) (hj : j < d) (hd : d ≤ s.reported j) :
    (s.strand place d (j + 1)).coming =
      (s.strand place d j).coming ++
        ((s.answer place j).elim [] fun c =>
          (Adapter.response s.reports (.nth place) c).map (·.occurrence)) := by
  by_cases hzero : j = 0
  · subst hzero
    have hone : d = 1 := by
      have hreported : s.reported 0 = 1 := rfl
      omega
    subst hone
    have hnot : ¬ s.Ordered (0 + 1) := by
      rintro ⟨-, hle⟩
      omega
    have hreported := reported_of_not_ordered (by omega) hnot
    simp only [strand, hreported, answer, if_true, Option.elim_some, ← take_started]
    simp [reported, course]
  · by_cases hclose : s.Closes ∧ j = 1 + s.closeAfter
    · obtain ⟨hc, rfl⟩ := hclose
      have hnot : ¬ s.Ordered (1 + s.closeAfter) := by
        rintro ⟨-, hle⟩
        omega
      have hnow := reported_of_not_ordered hzero hnot
      have hlater := reported_of_ordered ((ordered_succ s _).mpr (Or.inr ⟨hc, rfl⟩))
      have hanswer : s.answer place (1 + s.closeAfter) = some .close := by
        rw [answer, if_neg hzero, if_pos ⟨hc, rfl⟩]
      have hle : d ≤ ((s.course place).take (2 + s.reports)).length := by
        rw [List.length_take, length_course]
        omega
      have hsplit := List.take_append_drop (2 + s.reports) ((s.course place).take (3 + s.reports))
      rw [List.take_take, Nat.min_eq_left (by omega)] at hsplit
      simp only [strand, hnow, hlater, hanswer, Option.elim_some]
      rw [← take_closed hc, ← hsplit, List.drop_append_of_le_length hle, List.map_append, hsplit]
    · have hsame : s.Ordered (j + 1) ↔ s.Ordered j := by
        rw [ordered_succ, or_iff_left hclose]
      have hreported : s.reported (j + 1) = s.reported j := by
        have hsucc : ¬ j + 1 = 0 := by omega
        simp only [reported, hzero, hsucc, hsame, if_false]
      rw [answer, if_neg hzero, if_neg hclose]
      simp only [strand, hreported, Option.elim_none, List.append_nil]

theorem waiting_cons (place : Nat) (hj : j < d) (hd : d ≤ s.reported j) :
    ∃ o notice, (s.course place)[j]? = some (o, notice) ∧
      (s.strand place d j).waiting = notice :: (s.strand place d (j + 1)).waiting ∧
      (s.strand place d (j + 1)).heard = (s.strand place d j).heard ++ [notice] := by
  have hlen := s.reported_le place j
  have hcourse : j < (s.course place).length := by omega
  have hlt : j < ((s.course place).take d).length := by
    rw [List.length_take]
    omega
  refine ⟨((s.course place)[j]).1, ((s.course place)[j]).2, List.getElem?_eq_getElem _, ?_, ?_⟩
  · simp only [strand]
    rw [List.drop_eq_getElem_cons hlt, List.map_cons, List.getElem_take]
  · simp only [strand]
    rw [List.take_add_one, List.getElem?_eq_getElem hcourse, List.map_append]
    rfl

theorem ordered_of_answer_none (h : s.answer place j = none) :
    s.Ordered (j + 1) ↔ s.Ordered j := by
  unfold answer at h
  split_ifs at h with hzero hclose
  rw [ordered_succ, or_iff_left hclose]

theorem ordered_of_answer_some {c : SessionCommand} (h : s.answer place j = some c) :
    ¬ s.Ordered j ∧ (s.Ordered (j + 1) ↔ c = .close) := by
  unfold answer at h
  split_ifs at h with hzero hclose
  · cases h
    subst hzero
    have hnot : ∀ i, i < 2 → ¬ s.Ordered i := by
      rintro i hi ⟨-, hle⟩
      omega
    exact ⟨hnot 0 (by omega), by simp [hnot 1 (by omega)]⟩
  · cases h
    obtain ⟨hc, rfl⟩ := hclose
    refine ⟨?_, by simp [ordered_succ, hc]⟩
    rintro ⟨-, hle⟩
    omega

theorem calls_answer (s : Script) (place j : Nat) :
    s.calls place (j + 1) = s.calls place j ++ (s.answer place j).toList := by
  have hsucc : ¬ j + 1 = 0 := by omega
  cases hanswer : s.answer place j with
  | none =>
    have hzero : ¬ j = 0 := by
      rintro rfl
      cases hanswer
    simp only [calls, hsucc, hzero, ordered_of_answer_none hanswer, if_false, Option.toList_none,
      List.append_nil]
  | some c =>
    obtain ⟨hbefore, hafter⟩ := ordered_of_answer_some hanswer
    simp only [calls, hsucc, hbefore, hafter, if_false]
    unfold answer at hanswer
    split_ifs at hanswer with hzero hclose
    · cases hanswer
      simp [hzero]
    · cases hanswer
      simp [hzero]

/-- The handler hears the next notice of the script, and its answer keeps the strand in it. -/
theorem strand_run (hj : j < d) (hd : d ≤ s.reported j) :
    (s.strand place d j).run s.reports place = s.strand place d (j + 1) := by
  obtain ⟨o, notice, hcourse, hwaiting, hheard⟩ := waiting_cons place hj hd
  have hcoming := coming_answer place hj hd
  have hcalls := s.calls_answer place j
  have hhandler : (s.strand place d j).handler = some (s.handler place j) := rfl
  simp only [Strand.run, hwaiting, hhandler, hear_course hcourse, Option.map_map]
  rw [← hheard]
  cases hanswer : s.answer place j with
  | none =>
    have hended : (s.strand place d j).ended = (s.strand place d (j + 1)).ended := by
      simp [strand, ordered_of_answer_none hanswer]
    have hsame : (s.strand place d j).calls = (s.strand place d (j + 1)).calls := by
      simp [strand, hcalls, hanswer]
    rw [hanswer, Option.elim_none, List.append_nil] at hcoming
    simp only [Option.map_none, Strand.obey]
    rw [← hcoming, hended, hsame]
    rfl
  | some c =>
    obtain ⟨hbefore, hafter⟩ := ordered_of_answer_some hanswer
    have hopen : (s.strand place d j).ended = false := by simp [strand, hbefore]
    have hended : decide (c = .close) = (s.strand place d (j + 1)).ended := by simp [strand, hafter]
    have hmore : (s.strand place d j).calls ++ [c] = (s.strand place d (j + 1)).calls := by
      simp [strand, hcalls, hanswer]
    rw [hanswer, Option.elim_some] at hcoming
    simp only [Option.map_some, Function.comp_apply, Strand.obey, hopen, Bool.false_eq_true,
      if_false]
    rw [← hcoming, hended, hmore]
    rfl

/-- A strand in which nothing is to come and nothing waits has played its script to the end. -/
theorem played_out (hj : j ≤ d) (hd : d ≤ s.reported j)
    (hcoming : (s.strand place d j).coming = []) (hwaiting : (s.strand place d j).waiting = []) :
    d = (s.course place).length ∧ j = (s.course place).length := by
  have hlast : s.reported j ≤ d := coming_eq_nil_iff.mp hcoming
  have hheard : d ≤ j := (waiting_eq_nil_iff hd).mp hwaiting
  have hj' : j = s.reported j := by omega
  suffices hall : s.reported j = (s.course place).length by omega
  rw [length_course]
  by_cases ho : s.Ordered j
  · rw [reported_of_ordered ho, if_pos ho.1]
    omega
  · have hzero : j ≠ 0 := by
      rintro rfl
      cases hj'
    rw [reported_of_not_ordered hzero ho] at hj' ⊢
    have hnever : ¬ s.Closes := by
      intro hc
      have hle := hc.2
      exact ho ⟨hc, by omega⟩
    rw [if_neg hnever, Nat.add_zero]

/-- A script ends with the close, or with the session active and its reports all heard. -/
theorem strand_end (s : Script) (place : Nat) :
    s.strand place (s.course place).length (s.course place).length =
      { coming := []
        entry :=
          if s.Closes then none
          else some { client := place, executor := (), phase := .active, lease := some place }
        waiting := []
        heard := (s.course place).map (·.2)
        handler := some
          { startParams := Agent.sessionParams place
            closeAfter := s.closeAfter
            reports := s.reports
            session := if s.Closes then none else some (.nth place) }
        ended := decide s.Closes
        calls := .start (Agent.sessionParams place) :: if s.Closes then [.close] else [] } := by
  have hlen := s.length_course place
  have hreported := s.reported_le place (s.course place).length
  have hzero : ¬ (s.course place).length = 0 := by omega
  have hordered : s.Ordered (s.course place).length ↔ s.Closes := by
    unfold Ordered
    refine ⟨fun h => h.1, fun hc => ⟨hc, ?_⟩⟩
    have hle := hc.2
    omega
  have hdone : ((s.course place).take (s.reported (s.course place).length)).drop
      (s.course place).length = [] := by
    rw [List.drop_eq_nil_iff, List.length_take]
    omega
  simp only [strand, hdone, List.take_length, List.drop_length, List.map_nil, hordered, calls,
    hzero, if_false, entry, handler]
  have hcount : min ((s.course place).length - 2) s.reports = s.reports := by omega
  have hone : ¬ (s.course place).length = 1 := by omega
  by_cases hc : s.Closes
  · rw [if_pos hc] at hlen
    have hover : ¬ (s.course place).length < 3 + s.reports := by omega
    have hover' : 3 + s.reports ≤ (s.course place).length := by omega
    simp only [hcount, hone, hover, hover', hc, or_true, if_true, if_false]
  · rw [if_neg hc] at hlen
    have hunder : (s.course place).length < 3 + s.reports := by omega
    have hunder' : ¬ 3 + s.reports ≤ (s.course place).length := by omega
    simp only [hcount, hone, hunder, hunder', hc, or_false, if_true, if_false]

end Script

end Rangelink
