import Rangelink.Proofs.History
import Rangelink.Proofs.RouteSelection.Notification

/-! # Reports that arrive interleaved

A report fills in one aspect of the record of the tracked network, so reports on
different aspects can be taken in either order. What the owner is told on the way
depends on the order; what it has been told in the end does not.
-/
namespace Rangelink

/-- What a report about a network is on. Suspensions and resumptions are on its capabilities. -/
inductive Aspect where
  | capabilities
  | link
  | blocked
  deriving DecidableEq

namespace NetworkChange

def aspect? : NetworkChange → Option Aspect
  | .capabilities _ | .suspended | .resumed => some .capabilities
  | .link _ => some .link
  | .blocked _ => some .blocked
  | .available | .lost => none

def isOn (aspect : Aspect) (change : NetworkChange) : Bool := decide (change.aspect? = some aspect)

theorem isReport_iff {change : NetworkChange} :
    change.isReport = true ↔ change.aspect? ≠ none := by
  cases change <;> simp [isReport, aspect?]

theorem aspect?_cases (change : NetworkChange) :
    change.aspect? = none ∨ change.aspect? = some .capabilities ∨ (∃ link, change = .link link) ∨
      ∃ blocked, change = .blocked blocked := by
  cases change <;> simp [aspect?]

end NetworkChange

namespace RouteSelection
variable {s : RouteSelection} {change : NetworkChange}

/-- The state once the owner has been told of the record, if that is complete. -/
def settle (s : RouteSelection) : RouteSelection := { s with current := s.candidate.or s.current }

/-- The state that the reports lead to if the owner is told nothing on the way. -/
def noted (changes : List NetworkChange) (s : RouteSelection) : RouteSelection :=
  changes.foldl (fun s change => s.note change) s

section Order

theorem note_of_no_aspect (h : change.aspect? = none) (s : RouteSelection) : s.note change = s := by
  cases change with
  | available => rfl
  | lost => rfl
  | capabilities cs => cases h
  | link link => cases h
  | blocked blocked => cases h
  | suspended => cases h
  | resumed => cases h

/-- What a report on the capabilities leaves behind does not depend on the rest of the draft. -/
theorem note_modifyDraft {f : NetworkRecord.Draft → NetworkRecord.Draft}
    (hf : ∀ cs d, f (d.setCapabilities cs) = (f d).setCapabilities cs)
    (h : change.aspect? = some .capabilities) (s : RouteSelection) :
    (s.modifyDraft f).note change = (s.note change).modifyDraft f := by
  have refresh : ∀ s : RouteSelection, (s.modifyDraft f).refresh = s.refresh.modifyDraft f := by
    intro s
    have heffective : (s.modifyDraft f).effective = s.effective := rfl
    simp only [RouteSelection.refresh, heffective]
    cases s.effective with
    | none => rfl
    | some cs =>
      simp only [modifyDraft, Option.map_map]
      congr 2
      funext d
      exact (hf cs d).symm
  cases change with
  | capabilities cs => exact refresh { s with genuine := some cs, suspension := none }
  | suspended => exact refresh { s with suspension := some .suspended }
  | resumed => exact refresh { s with suspension := some .resumed }
  | link link => cases h
  | blocked blocked => cases h
  | available => cases h
  | lost => cases h

/-- Reports on different aspects can be noted in either order. -/
theorem note_comm (s : RouteSelection) (a b : NetworkChange) (h : a.aspect? ≠ b.aspect?) :
    (s.note a).note b = (s.note b).note a := by
  have hlink : ∀ link cs (d : NetworkRecord.Draft),
      (d.setCapabilities cs).setLink link = (d.setLink link).setCapabilities cs := fun _ _ _ => rfl
  have hblocked : ∀ blocked cs (d : NetworkRecord.Draft),
      (d.setCapabilities cs).setBlocked blocked = (d.setBlocked blocked).setCapabilities cs :=
    fun _ _ _ => rfl
  have hboth : ∀ link blocked, (s.note (.link link)).note (.blocked blocked) =
      (s.note (.blocked blocked)).note (.link link) := by
    intro link blocked
    simp only [note, modifyDraft, Option.map_map]
    rfl
  rcases a.aspect?_cases with ha | ha | ⟨link, rfl⟩ | ⟨blocked, rfl⟩
  · rw [note_of_no_aspect ha, note_of_no_aspect ha]
  · rcases b.aspect?_cases with hb | hb | ⟨link, rfl⟩ | ⟨blocked, rfl⟩
    · rw [note_of_no_aspect hb, note_of_no_aspect hb]
    · exact absurd (ha.trans hb.symm) h
    · exact (note_modifyDraft (hlink link) ha s).symm
    · exact (note_modifyDraft (hblocked blocked) ha s).symm
  · rcases b.aspect?_cases with hb | hb | ⟨link', rfl⟩ | ⟨blocked, rfl⟩
    · rw [note_of_no_aspect hb, note_of_no_aspect hb]
    · exact note_modifyDraft (hlink link) hb s
    · exact absurd rfl h
    · exact hboth link blocked
  · rcases b.aspect?_cases with hb | hb | ⟨link, rfl⟩ | ⟨blocked', rfl⟩
    · rw [note_of_no_aspect hb, note_of_no_aspect hb]
    · exact note_modifyDraft (hblocked blocked) hb s
    · exact (hboth link blocked).symm
    · exact absurd rfl h

end Order

section Settling

theorem announce_fst_eq (s : RouteSelection) : s.announce.1 = s.settle := by
  unfold settle
  rcases s.announce_cases with ⟨ha, hnone⟩ | ⟨r, ⟨hr, -⟩, ha⟩
  · rw [ha]
    cases hc : s.candidate with
    | none => rfl
    | some r =>
      have hcurrent : s.current = some r := by
        by_contra hne
        exact hnone r ⟨hc, hne⟩
      rw [Option.some_or, ← hcurrent]
  · rw [ha, hr]
    rfl

theorem settle_of_upToDate (h : s.UpToDate) : s.settle = s := by
  unfold settle
  cases hc : s.candidate with
  | none => rfl
  | some r => rw [Option.some_or, ← h.complete r hc]

theorem note_with_current (change : NetworkChange) (s : RouteSelection)
    (current : Option NetworkRecord) :
    { s with current }.note change = { s.note change with current } := by
  have refresh : ∀ s : RouteSelection, { s with current }.refresh = { s.refresh with current } := by
    intro s
    have heffective : { s with current }.effective = s.effective := rfl
    simp only [RouteSelection.refresh, heffective]
    cases s.effective <;> rfl
  cases change with
  | capabilities cs => exact refresh { s with genuine := some cs, suspension := none }
  | suspended => exact refresh { s with suspension := some .suspended }
  | resumed => exact refresh { s with suspension := some .resumed }
  | link link => rfl
  | blocked blocked => rfl
  | available => rfl
  | lost => rfl

theorem candidate_modifyDraft {f : NetworkRecord.Draft → NetworkRecord.Draft}
    (hf : ∀ d, d.isComplete = true → (f d).isComplete = true) (h : s.candidate ≠ none) :
    (s.modifyDraft f).candidate ≠ none := by
  unfold candidate modifyDraft at *
  cases hd : s.inProgress with
  | none => simp [hd] at h
  | some d =>
    simp only [hd, Option.bind_some, Option.map_some, ← Option.isSome_iff_ne_none,
      NetworkRecord.Draft.isSome_record?] at h ⊢
    exact hf d h

/-- Nothing goes missing from a complete record. -/
theorem candidate_note (change : NetworkChange) (h : s.candidate ≠ none) :
    (s.note change).candidate ≠ none := by
  have refresh : ∀ s : RouteSelection, s.candidate ≠ none → s.refresh.candidate ≠ none := by
    intro s h
    unfold RouteSelection.refresh
    cases s.effective with
    | none => exact h
    | some cs =>
      apply candidate_modifyDraft _ h
      intro d hd
      simp_all [NetworkRecord.Draft.isComplete, NetworkRecord.Draft.setCapabilities]
  cases change with
  | capabilities cs => exact refresh { s with genuine := some cs, suspension := none } h
  | suspended => exact refresh { s with suspension := some .suspended } h
  | resumed => exact refresh { s with suspension := some .resumed } h
  | link link =>
    apply candidate_modifyDraft _ h
    intro d hd
    simp_all [NetworkRecord.Draft.isComplete, NetworkRecord.Draft.setLink]
  | blocked blocked =>
    apply candidate_modifyDraft _ h
    intro d hd
    simp_all [NetworkRecord.Draft.isComplete, NetworkRecord.Draft.setBlocked]
  | available => exact h
  | lost => exact h

/-- Whether the owner is told before a report makes no difference once it is told after it. -/
theorem settle_note_settle (change : NetworkChange) (s : RouteSelection) :
    (s.settle.note change).settle = (s.note change).settle := by
  have hnote : s.settle.note change =
      { s.note change with current := s.candidate.or s.current } :=
    note_with_current change s _
  have hcandidate : (s.settle.note change).candidate = (s.note change).candidate := by
    rw [hnote]
    rfl
  unfold settle at *
  rw [hcandidate, hnote, current_note]
  cases hc : (s.note change).candidate with
  | some r => rfl
  | none =>
    have hnone : s.candidate = none := by
      by_contra hne
      exact candidate_note change hne hc
    simp [hnone]

end Settling

section Runs
variable {n : NetworkId} {changes : List NetworkChange}

/-- Reports about the tracked network come to the same as noting them all and telling the owner in
the end. -/
theorem after_reports (tracks : s.tracked = some n) (h : s.UpToDate)
    (reports : ∀ change ∈ changes, change.isReport = true) :
    s.after (changes.map (⟨n, ·⟩)) = (s.noted changes).settle ∧
      (s.noted changes).tracked = some n := by
  induction changes using List.reverseRecOn with
  | nil => exact ⟨(settle_of_upToDate h).symm, tracks⟩
  | append_singleton before change ih =>
    obtain ⟨hbefore, hreport⟩ := List.forall_mem_append.mp reports
    have hchange : change.isReport = true := hreport change (List.mem_singleton_self change)
    obtain ⟨hafter, htracked⟩ := ih hbefore
    have hnoted : s.noted (before ++ [change]) = (s.noted before).note change :=
      List.foldl_concat _ _ _ _
    have hstill : (s.noted before).settle.tracked = some n := htracked
    rw [hnoted]
    refine ⟨?_, by rw [tracked_note, htracked]⟩
    calc s.after ((before ++ [change]).map (⟨n, ·⟩))
        _ = ((s.after (before.map (⟨n, ·⟩))).apply ⟨n, change⟩).1 := by
          rw [List.map_append, after_append]
          rfl
        _ = ((s.noted before).settle.update n change).1 := by
          rw [hafter, apply_report (e := ⟨n, change⟩) hchange]
        _ = ((s.noted before).settle.note change).settle := by
          rw [update, if_pos hstill, announce_fst_eq]
        _ = ((s.noted before).note change).settle := settle_note_settle change _

/-- Once a network is tracked, reports about it lead to the same state in every order that keeps
those on each aspect in theirs, however many of them the owner was told of. It is left with the same
record. -/
theorem interleavings_agree {events : List NetworkEvent} {xs ys : List NetworkChange}
    (tracks : (after events {}).tracked = some n)
    (hxs : ∀ change ∈ xs, change.isReport = true) (hys : ∀ change ∈ ys, change.isReport = true)
    (same : ∀ aspect : Aspect, xs.filter (·.isOn aspect) = ys.filter (·.isOn aspect)) :
    after (events ++ xs.map (⟨n, ·⟩)) {} = after (events ++ ys.map (⟨n, ·⟩)) {} ∧
      (notifications (events ++ xs.map (⟨n, ·⟩)) {}).getLast?.join =
        (notifications (events ++ ys.map (⟨n, ·⟩)) {}).getLast?.join := by
  have hkinds : ∀ kind : Option Aspect,
      xs.filter (fun c => c.aspect? = kind) = ys.filter (fun c => c.aspect? = kind) := by
    intro kind
    cases kind with
    | some aspect => exact same aspect
    | none =>
      have hnone : ∀ zs : List NetworkChange, (∀ change ∈ zs, change.isReport = true) →
          zs.filter (fun c => c.aspect? = none) = [] := by
        intro zs hzs
        rw [List.filter_eq_nil_iff]
        intro c hc
        simpa using NetworkChange.isReport_iff.mp (hzs c hc)
      rw [hnone xs hxs, hnone ys hys]
  have hnoted : (after events {}).noted xs = (after events {}).noted ys :=
    foldl_eq_of_interleaved note_comm hkinds _
  have hstate : after (events ++ xs.map (⟨n, ·⟩)) {} = after (events ++ ys.map (⟨n, ·⟩)) {} := by
    rw [after_append, after_append, (after_reports tracks (upToDate_after events) hxs).1,
      (after_reports tracks (upToDate_after events) hys).1, hnoted]
  refine ⟨hstate, ?_⟩
  rw [← current_after, ← current_after, hstate]

/-- One order completes the record with the second report, so that the owner is told of the two after it
as well; the other completes it with the last. -/
theorem interleavings_agree_told_thrice :
    let events : List NetworkEvent := [⟨⟨1⟩, .available⟩, ⟨⟨1⟩, .capabilities {}⟩, ⟨⟨1⟩, .suspended⟩]
    let xs : List NetworkChange := [.link {}, .blocked true, .resumed, .blocked false]
    let ys : List NetworkChange := [.blocked true, .blocked false, .resumed, .link {}]
    after (events ++ xs.map (⟨⟨1⟩, ·⟩)) {} = after (events ++ ys.map (⟨⟨1⟩, ·⟩)) {} ∧
      (notifications (events ++ xs.map (⟨⟨1⟩, ·⟩)) {}).length = 3 ∧
      (notifications (events ++ ys.map (⟨⟨1⟩, ·⟩)) {}).length = 1 := by
  intro events xs ys
  have tracks : (after events {}).tracked = some ⟨1⟩ := rfl
  have hxs : ∀ change ∈ xs, change.isReport = true := by decide
  have hys : ∀ change ∈ ys, change.isReport = true := by decide
  have same : ∀ aspect : Aspect, xs.filter (·.isOn aspect) = ys.filter (·.isOn aspect) := by
    intro aspect
    cases aspect <;> decide
  exact ⟨(interleavings_agree tracks hxs hys same).1, by decide, by decide⟩

end Runs

end RouteSelection

end Rangelink
