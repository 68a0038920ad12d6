import Rangelink.Proofs.RouteSelection.Notification

/-! # What a route selection holds

A selection keeps capability sets as they were reported, as a suspension adjusts
them, in the record under construction and in the record told last. A property
that adjusting keeps holds of all of these if it holds of all that was reported.
-/
namespace Rangelink

namespace NetworkRecord.Draft

theorem capabilities_of_record? {d : Draft} {r : NetworkRecord} (h : d.record? = some r) :
    d.capabilities = some r.capabilities := by
  obtain ⟨n, _ | cs, _ | link, _ | blocked⟩ := d <;> cases h
  rfl

end NetworkRecord.Draft

namespace RouteSelection
variable {P : Capabilities → Prop} {s : RouteSelection} {e : NetworkEvent} {cs : Capabilities}

/-- The sets that a state holds: as reported and as adjusted, in the record under construction and in
the record that the owner heard of last. -/
def Holds (s : RouteSelection) (cs : Capabilities) : Prop :=
  s.genuine = some cs ∨ s.effective = some cs ∨
    (∃ d, s.inProgress = some d ∧ d.capabilities = some cs) ∨
    ∃ r, s.current = some r ∧ r.capabilities = cs

/-- All that a state holds has a property. -/
structure HoldsOnly (P : Capabilities → Prop) (s : RouteSelection) : Prop where
  genuine : ∀ cs, s.genuine = some cs → P cs
  draft : ∀ d cs, s.inProgress = some d → d.capabilities = some cs → P cs
  current : ∀ r, s.current = some r → P r.capabilities

/-- A property that suspensions and resumptions keep. -/
def Adjustable (P : Capabilities → Prop) : Prop :=
  ∀ suspension cs, P cs → P (Suspension.adjust suspension cs)

namespace HoldsOnly

theorem effective (h : HoldsOnly P s) (hP : Adjustable P) (hcs : s.effective = some cs) : P cs := by
  obtain ⟨genuine, hgenuine, rfl⟩ := Option.map_eq_some_iff.mp hcs
  exact hP _ _ (h.genuine genuine hgenuine)

theorem holds (h : HoldsOnly P s) (hP : Adjustable P) (hcs : s.Holds cs) : P cs := by
  rcases hcs with hgenuine | heffective | ⟨d, hd, hdraft⟩ | ⟨r, hr, rfl⟩
  · exact h.genuine cs hgenuine
  · exact h.effective hP heffective
  · exact h.draft d cs hd hdraft
  · exact h.current r hr

theorem modifyDraft (h : HoldsOnly P s) {f : NetworkRecord.Draft → NetworkRecord.Draft}
    (hf : ∀ d cs, (f d).capabilities = some cs → d.capabilities = some cs ∨ P cs) :
    HoldsOnly P (s.modifyDraft f) := by
  refine ⟨h.genuine, ?_, h.current⟩
  intro d cs hd hcs
  obtain ⟨old, hold, rfl⟩ := Option.map_eq_some_iff.mp hd
  rcases hf old cs hcs with hsame | hnew
  · exact h.draft old cs hold hsame
  · exact hnew

theorem refresh (h : HoldsOnly P s) (hP : Adjustable P) : HoldsOnly P s.refresh := by
  unfold RouteSelection.refresh
  split
  · exact h
  · rename_i cs heffective
    apply h.modifyDraft
    intro d new hnew
    cases hnew
    exact Or.inr (h.effective hP heffective)

theorem note (h : HoldsOnly P s) (hP : Adjustable P) {change : NetworkChange}
    (hchange : ∀ cs, change = .capabilities cs → P cs) : HoldsOnly P (s.note change) := by
  cases change with
  | available => exact h
  | lost => exact h
  | capabilities cs =>
    have hnew : HoldsOnly P { s with genuine := some cs, suspension := none } := by
      refine ⟨?_, h.draft, h.current⟩
      intro cs' hcs'
      cases hcs'
      exact hchange cs rfl
    exact hnew.refresh hP
  | suspended =>
    have hnew : HoldsOnly P { s with suspension := some .suspended } :=
      ⟨h.genuine, h.draft, h.current⟩
    exact hnew.refresh hP
  | resumed =>
    have hnew : HoldsOnly P { s with suspension := some .resumed } :=
      ⟨h.genuine, h.draft, h.current⟩
    exact hnew.refresh hP
  | link link => exact h.modifyDraft fun d cs hcs => Or.inl hcs
  | blocked blocked => exact h.modifyDraft fun d cs hcs => Or.inl hcs

theorem announce (h : HoldsOnly P s) : HoldsOnly P s.announce.1 := by
  rcases s.announce_cases with ⟨ha, -⟩ | ⟨r, ⟨hcandidate, -⟩, ha⟩
  · rw [ha]
    exact h
  · rw [ha]
    refine ⟨h.genuine, h.draft, ?_⟩
    intro r' hr'
    cases hr'
    obtain ⟨d, hd, hrecord⟩ := Option.bind_eq_some_iff.mp hcandidate
    exact h.draft d r.capabilities hd (NetworkRecord.Draft.capabilities_of_record? hrecord)

theorem apply (h : HoldsOnly P s) (hP : Adjustable P)
    (he : ∀ cs, e.change = .capabilities cs → P cs) : HoldsOnly P (s.apply e).1 := by
  obtain ⟨n, change⟩ := e
  rcases change.coming_going_or_report with rfl | rfl | hr
  · show HoldsOnly P (s.track n)
    unfold RouteSelection.track
    split
    · exact h
    · refine ⟨by simp, ?_, h.current⟩
      rintro d cs hd hcs
      cases hd
      cases hcs
  · show HoldsOnly P (s.lose n).1
    unfold RouteSelection.lose
    split
    · exact ⟨by simp, by simp, by simp⟩
    · exact h
  · rw [apply_report (e := ⟨n, change⟩) hr, RouteSelection.update]
    split
    · exact (h.note hP he).announce
    · exact h

end HoldsOnly

/-- What all reports of a history have and adjusting keeps, all has that the state holds. -/
theorem holdsOnly_after (hP : Adjustable P) {events : List NetworkEvent}
    (h : ∀ e ∈ events, ∀ cs, e.change = .capabilities cs → P cs) :
    HoldsOnly P (after events {}) := by
  induction events using List.reverseRecOn with
  | nil => exact ⟨by simp [after], by simp [after], by simp [after]⟩
  | append_singleton events e ih =>
    rw [after_append, after_singleton]
    apply HoldsOnly.apply
    · exact ih fun e he => h e (List.mem_append_left _ he)
    · exact hP
    · exact h e List.mem_concat_self

end RouteSelection

end Rangelink
