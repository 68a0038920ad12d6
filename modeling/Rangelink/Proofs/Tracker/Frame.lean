import Rangelink.Proofs.Attempt
import Rangelink.Proofs.Service.Log
import Rangelink.Proofs.Tracker.Ledger

/-! # What the calls of a tracker leave alone

Filing and withdrawing cellular bring-ups leaves the rest of the tracker as it
is, whichever calls are refused and whatever identifiers the provider holds. All
that a tracker does to the service is to call it.
-/
namespace Rangelink.Tracker
open Service (Called called_withdrawAll)

/-- The trackers differ in subscriptions and cellular bring-ups at most, and the services by
calls. -/
structure Framed (s s' : Tracker × Service) : Prop where
  bare : s'.1.bare = s.1.bare
  called : s.2.Called s'.2
  recorded : ∀ f, s.1.filings = some f → ∃ cells, s'.1.filings = some { f with cells }

namespace Framed
variable {s s₁ s₂ s₃ : Tracker × Service}

theorem refl (s : Tracker × Service) : Framed s s := ⟨rfl, .refl _, fun f hf => ⟨f.cells, hf⟩⟩

theorem trans (h₁ : Framed s₁ s₂) (h₂ : Framed s₂ s₃) : Framed s₁ s₃ := by
  refine ⟨h₂.bare.trans h₁.bare, h₁.called.trans h₂.called, ?_⟩
  intro f hf
  obtain ⟨cells, hcells⟩ := h₁.recorded f hf
  obtain ⟨cells', hcells'⟩ := h₂.recorded _ hcells
  exact ⟨cells', hcells'⟩

end Framed

section Calls
variable {t : Tracker} {service : Service} {s s' : Tracker × Service} {sub : SubscriptionId}
  {outcome : Outcome}

/-- A bring-up is refused and leaves the tracker be, or goes on record under the identifier drawn for
it. -/
theorem enlist_leaves (h : enlist sub (t, service) = (outcome, s')) :
    service.Called s'.2 ∧ s'.2.drawn = service.drawn + 1 ∧
      s'.2.attempts = service.attempts ++
        [⟨.file ⟨.serial service.drawn, .bringup, Request.cell t.required sub⟩,
          Service.failureOf outcome⟩] ∧
      ((∃ e, outcome = .error e ∧ s'.1 = t) ∨
        (outcome = .ok () ∧ s'.1 = t.join sub (.serial service.drawn))) := by
  have hcalled := (Called.refl service).file .bringup (Request.cell t.required sub)
  simp only [enlist, Request.cellBringup_eq] at h
  rcases hfile : file .bringup (Request.cell t.required sub) service with ⟨answer, service'⟩
  obtain ⟨hlog, hdrawn, -, ⟨e, rfl, -⟩ | ⟨rfl, -⟩⟩ := Service.request_leaves hfile
  · rw [hfile] at h hcalled
    cases h
    exact ⟨hcalled, hdrawn, hlog, Or.inl ⟨e, rfl, rfl⟩⟩
  · rw [hfile] at h hcalled
    cases h
    exact ⟨hcalled, hdrawn, hlog, Or.inr ⟨rfl, rfl⟩⟩

/-- A withdrawal is made only of what is on record. If it is refused, the tracker is left as it was. -/
theorem dismiss_leaves (h : dismiss sub (t, service) = (outcome, s')) :
    service.Called s'.2 ∧ s'.2.drawn = service.drawn ∧
      ((t.cell? sub = none ∧ s' = (t.leave sub, service) ∧ outcome = .ok ()) ∨
        ∃ id, t.cell? sub = some id ∧
          s'.2.attempts = service.attempts ++ [⟨.withdraw id, Service.failureOf outcome⟩] ∧
          ((∃ e, outcome = .error e ∧ s'.1 = t) ∨ (outcome = .ok () ∧ s'.1 = t.leave sub))) := by
  simp only [dismiss] at h
  cases hcell : t.cell? sub with
  | none =>
    simp only [hcell] at h
    cases h
    exact ⟨.refl _, rfl, Or.inl ⟨rfl, rfl, rfl⟩⟩
  | some id =>
    have hcalled := (Called.refl service).withdraw id
    simp only [hcell] at h
    rcases hw : service.withdraw id with ⟨answer, service'⟩
    obtain ⟨hlog, hdrawn, -⟩ := Service.withdraw_leaves hw
    rw [hw] at h hcalled
    cases answer with
    | error e =>
      cases h
      exact ⟨hcalled, hdrawn, Or.inr ⟨id, rfl, hlog, Or.inl ⟨e, rfl, rfl⟩⟩⟩
    | ok _ =>
      cases h
      exact ⟨hcalled, hdrawn, Or.inr ⟨id, rfl, hlog, Or.inr ⟨rfl, rfl⟩⟩⟩

theorem filings_join {f : Filings} (hf : t.filings = some f) (sub : SubscriptionId)
    (id : CallbackId) :
    (t.join sub id).filings = some { f with cells := f.cells.insert sub id } := by
  simp [join, record, hf]

theorem filings_leave {f : Filings} (hf : t.filings = some f) (sub : SubscriptionId) :
    (t.leave sub).filings = some { f with cells := f.cells.erase sub } := by
  simp [leave, hf]

theorem framed_enlist (sub : SubscriptionId) (s : Tracker × Service) :
    Framed s (enlist sub s).2 := by
  obtain ⟨t, service⟩ := s
  rcases he : enlist sub (t, service) with ⟨outcome, t', service'⟩
  obtain ⟨hcalled, -, -, ⟨-, -, rfl⟩ | ⟨-, rfl⟩⟩ := enlist_leaves he
  · exact ⟨rfl, hcalled, fun f hf => ⟨f.cells, hf⟩⟩
  · exact ⟨rfl, hcalled, fun f hf => ⟨_, filings_join hf sub _⟩⟩

theorem framed_dismiss (sub : SubscriptionId) (s : Tracker × Service) :
    Framed s (dismiss sub s).2 := by
  obtain ⟨t, service⟩ := s
  have hleave : ∀ service', service.Called service' → Framed (t, service) (t.leave sub, service') :=
    fun service' hcalled => ⟨rfl, hcalled, fun f hf => ⟨_, filings_leave hf sub⟩⟩
  rcases hd : dismiss sub (t, service) with ⟨outcome, t', service'⟩
  obtain ⟨hcalled, -, ⟨-, hs', -⟩ | ⟨-, -, -, ⟨-, -, rfl⟩ | ⟨-, rfl⟩⟩⟩ := dismiss_leaves hd
  · cases hs'
    exact hleave _ hcalled
  · exact ⟨rfl, hcalled, fun f hf => ⟨f.cells, hf⟩⟩
  · exact hleave _ hcalled

theorem framed_reconcile (wanted : SubscriptionIds) (s : Tracker × Service) :
    Framed s (reconcile wanted s).2 := by
  have each : ∀ step : SubscriptionId → Tracker × Service → Outcome × (Tracker × Service),
      (∀ sub s, Framed s (step sub s).2) → ∀ subs s, Framed s (attemptEach step subs s).2 := by
    intro step hstep subs s
    refine attemptEach_keeps (P := fun _ s' => Framed s s') ?_ (Framed.refl s)
    intro sub rest s' h
    exact h.trans (hstep sub s')
  exact (each dismiss framed_dismiss _ s).trans (each enlist framed_enlist _ _)

theorem framed_update (caller : ThreadId) (snapshot : Snapshot) (t : Tracker) (service : Service) :
    Framed (t, service) (t.update caller snapshot service).2 := by
  by_cases hc : caller = t.context.owner
  · subst hc
    rw [update, Context.guarded_owner]
    show Framed (t, service) (if t.filings.isNone then _ else _ : Outcome × (Tracker × Service)).2
    split
    · exact .refl _
    · exact framed_reconcile _ _
  · rw [update, Context.guarded_of_ne hc]
    exact .refl _

theorem enroll_ok {kind : CallbackKind} {request : Request}
    {change : CallbackId → Filings → Filings} (h : enroll kind request change s = (.ok (), s')) :
    (∃ id, s'.1 = s.1.record (change id)) ∧ s.2.Called s'.2 := by
  obtain ⟨t, service⟩ := s
  have hcalled := (Called.refl service).file kind request
  simp only [enroll] at h
  rcases hfile : file kind request service with ⟨e | id, service'⟩
  · simp only [hfile] at h
    cases h
  · simp only [hfile] at h
    rw [hfile] at hcalled
    cases h
    exact ⟨⟨id, rfl⟩, hcalled⟩

theorem fileAll_ok {members : SubscriptionIds} (hf : s.1.filings = some {})
    (h : fileAll members s = (.ok (), s')) :
    s'.1.bare = s.1.bare ∧ s.2.Called s'.2 ∧
      ∃ wifi cells route, s'.1.filings = some ⟨some wifi, cells, some route⟩ := by
  unfold fileAll at h
  split at h
  · cases h
  · rename_i s₁ hwifi
    obtain ⟨⟨wifi, h₁⟩, hcalled₁⟩ := enroll_ok hwifi
    split at h
    · cases h
    · rename_i s₂ hcells
      have hframed : Framed s₁ s₂ :=
        attemptUntilFailure_keeps (P := fun _ s' => Framed s₁ s')
          (fun sub _ s' h => h.trans (framed_enlist sub s')) (Framed.refl s₁) hcells
      obtain ⟨⟨route, h₃⟩, hcalled₃⟩ := enroll_ok h
      have hrecorded : s₁.1.filings = some ⟨some wifi, .empty, none⟩ := by
        simp [h₁, record, hf, recordWifi]
      obtain ⟨cells, hcells⟩ := hframed.recorded _ hrecorded
      refine ⟨?_, hcalled₁.trans (hframed.called.trans hcalled₃), wifi, cells, route, ?_⟩
      · calc s'.1.bare
            _ = s₂.1.bare := by rw [h₃]; rfl
            _ = s₁.1.bare := hframed.bare
            _ = s.1.bare := by rw [h₁]; rfl
      · simp [h₃, record, hcells, recordRoute]

end Calls

/-- A tracker that started has all its callbacks on record and has selected nothing yet. -/
theorem start_ok {caller : ThreadId} {context : Context} {group : Uuid} {snapshot : Snapshot}
    {required : SortedSet Capability} {service service' : Service} {t : Tracker}
    (h : start caller context group snapshot required service = (.ok t, service')) :
    t.bare = bare { context, group, required } ∧ service.Called service' ∧
      ∃ wifi cells route, t.filings = some ⟨some wifi, cells, some route⟩ := by
  by_cases hc : caller = context.owner
  · subst hc
    rw [start, Context.guarded_owner] at h
    rcases hf : fileAll (snapshot.members group) ({ context, group, required }, service) with
      ⟨_ | _, t', service''⟩
    · simp only [hf] at h
      cases h
    · simp only [hf] at h
      cases h
      exact fileAll_ok rfl hf
  · rw [start, Context.guarded_of_ne hc] at h
    cases h

theorem called_teardown (caller : ThreadId) (t : Tracker) (service : Service) :
    service.Called (t.teardown caller service).2.2 := by
  by_cases hc : caller = t.context.owner
  · subst hc
    rw [teardown, Context.guarded_owner]
    simp only [release]
    cases t.filings with
    | none => exact .refl _
    | some f => exact called_withdrawAll f.ids service
  · rw [teardown, Context.guarded_of_ne hc]
    exact .refl _

end Rangelink.Tracker
