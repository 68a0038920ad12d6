import Rangelink.Proofs.Capabilities.Standing
import Rangelink.Proofs.Request.Template
import Rangelink.Proofs.RouteSelection.Contents

/-! # Where capability sets come from

Sets are made by edits, kept and built by builders of requests, written into the
requests of a tracker, and adjusted by a route selection. None of these makes a
capability wanted and unwanted at once.
-/
namespace Rangelink

namespace Request
variable {required : SortedSet Capability}

theorem coherent_base (required : SortedSet Capability) : (base required).capabilities.Coherent := by
  intro c hw hu
  exact (mem_wanted_base.mp hw).2.2.2 (mem_unwanted_base.mp hu)

theorem coherent_cellBringup {sub : SubscriptionId} {cell : Request}
    (h : cellBringup required sub = .ok cell) : cell.capabilities.Coherent := by
  cases h
  exact RequestBuilder.coherent_build (coherent_base required)

end Request

namespace Capabilities
variable {cs : Capabilities}

/-- The sets that come about anywhere: by edits, in builders and what they build, in the requests of
a tracker, and in a route selection that such sets are reported to. -/
inductive Obtained : Capabilities → Prop
  | empty : Obtained {}
  | edited {cs : Capabilities} (e : Edit) (h : Obtained cs) : Obtained (edit e cs)
  | kept {steps : List RequestBuilder.Step} (h : ∀ cs, .replace cs ∈ steps → Obtained cs) :
      Obtained (RequestBuilder.after steps).capabilities
  | built {steps : List RequestBuilder.Step} (h : ∀ cs, .replace cs ∈ steps → Obtained cs) :
      Obtained (RequestBuilder.after steps).build.capabilities
  | wifiBringup (required : SortedSet Capability) :
      Obtained (Request.wifiBringup required).capabilities
  | cellBringup {required : SortedSet Capability} {sub : SubscriptionId} {cell : Request}
      (h : Request.cellBringup required sub = .ok cell) : Obtained cell.capabilities
  | routeSelection (required : SortedSet Capability) :
      Obtained (Request.routeSelection required).capabilities
  | selected {events : List NetworkEvent} {cs : Capabilities}
      (h : ∀ e ∈ events, ∀ cs, e.change = .capabilities cs → Obtained cs)
      (hs : (RouteSelection.after events {}).Holds cs) : Obtained cs

theorem adjustable_coherent : RouteSelection.Adjustable Coherent := by
  intro suspension cs h
  cases suspension with
  | none => exact h
  | some suspension =>
    cases suspension with
    | suspended => exact h.release _
    | resumed => exact h.require _

theorem Obtained.coherent (h : Obtained cs) : cs.Coherent := by
  induction h with
  | empty => exact coherent_empty
  | edited e _ ih => exact ih.edit e
  | kept _ ih => exact RequestBuilder.coherent_after ih
  | built _ ih => exact RequestBuilder.coherent_build (RequestBuilder.coherent_after ih)
  | wifiBringup required => exact RequestBuilder.coherent_build (Request.coherent_base required)
  | cellBringup h => exact Request.coherent_cellBringup h
  | routeSelection required => exact RequestBuilder.coherent_build (Request.coherent_base required)
  | selected _ hs ih =>
    exact (RouteSelection.holdsOnly_after adjustable_coherent ih).holds adjustable_coherent hs

/-- Wherever a set comes from, nothing in it is both wanted and unwanted. Edits leave behind the last
standing of each capability and nothing else: sets that read alike are equal, edits of different
capabilities can change places, and a record that is told can be told from the one before. -/
theorem read_without_history :
    (∀ cs, Obtained cs → ∀ c, ¬ (cs.has c = true ∧ cs.hasUnwanted c = true)) ∧
      (∀ edits, .markRestricted ∉ edits → ∀ c,
        ((made edits).has c = true ↔ standingAfter edits c = .wanted) ∧
          ((made edits).hasUnwanted c = true ↔ standingAfter edits c = .unwanted)) ∧
      (∀ cs₁ cs₂, cs₁ = cs₂ ↔ ReadAlike cs₁ cs₂) ∧
      (∀ (e₁ e₂ : Edit) (c d : Capability), e₁.capability? = some c → e₂.capability? = some d →
        c ≠ d → ∀ cs, edit e₂ (edit e₁ cs) = edit e₁ (edit e₂ cs)) ∧
      ∀ (s : RouteSelection) (e : NetworkEvent) (r r' : NetworkRecord),
        (s.apply e).2 = some (some r) → s.current = some r' →
          ¬ (r.network = r'.network ∧ r.link = r'.link ∧ r.blocked = r'.blocked ∧
            ReadAlike r.capabilities r'.capabilities) := by
  refine ⟨?_, ?_, ?_, ?_, ?_⟩
  · rintro cs h c ⟨hw, hu⟩
    exact h.coherent c (SortedSet.contains_eq_true.mp hw) (SortedSet.contains_eq_true.mp hu)
  · intro edits h c
    rw [← standing_made h c]
    exact ⟨has_iff_standing, (coherent_made edits).hasUnwanted_iff_standing⟩
  · intro cs₁ cs₂
    exact eq_iff_readAlike
  · intro e₁ e₂ c d h₁ h₂ hne cs
    exact edit_comm h₁ h₂ hne cs
  · rintro s e r r' hr hr' ⟨hn, hl, hb, hread⟩
    obtain ⟨-, -, -, hnews⟩ := RouteSelection.apply_eq_selected_iff.mp hr
    have hsame : r = r' := by
      cases r
      cases r'
      simp_all [eq_iff_readAlike]
    apply hnews
    rw [hr', hsame]

/-- A built set that forbids `notSuspended` is reported of a network, which is then resumed: the
record told then wants what the one before forbade, and differs from that one to a reader. -/
theorem read_without_history_resumed :
    let genuine := (RequestBuilder.after [.require .mms, .forbid .notSuspended]).build.capabilities
    let events : List NetworkEvent :=
      [⟨⟨1⟩, .available⟩, ⟨⟨1⟩, .capabilities genuine⟩, ⟨⟨1⟩, .link {}⟩, ⟨⟨1⟩, .blocked false⟩]
    let resumption : NetworkEvent := ⟨⟨1⟩, .resumed⟩
    let before : NetworkRecord := ⟨⟨1⟩, genuine, {}, false⟩
    let told : NetworkRecord := ⟨⟨1⟩, genuine.require .notSuspended, {}, false⟩
    let s := RouteSelection.after events {}
    Obtained told.capabilities ∧
      ¬ (told.capabilities.has .notSuspended = true ∧
        told.capabilities.hasUnwanted .notSuspended = true) ∧
      (made [.forbid .mms, .require .dun, .clear, .require .mms]).has .mms = true ∧
      edit (.forbid .mms) (edit (.require .dun) genuine) =
        edit (.require .dun) (edit (.forbid .mms) genuine) ∧
      s.current = some before ∧ (s.apply resumption).2 = some (some told) ∧
      ¬ ReadAlike told.capabilities before.capabilities := by
  intro genuine events resumption before told s
  obtain ⟨hapart, hstanding, -, hcomm, hnews⟩ := read_without_history
  have hgenuine : Obtained genuine := by
    apply Obtained.built
    simp
  have htold : Obtained told.capabilities := by
    have hreported : ∀ e ∈ events ++ [resumption], ∀ cs, e.change = .capabilities cs →
        Obtained cs := by
      simp [events, resumption, hgenuine]
    exact .selected hreported (Or.inr (Or.inl rfl))
  have hcurrent : s.current = some before := by rfl
  have hnotified : (s.apply resumption).2 = some (some told) := by rfl
  refine ⟨htold, hapart _ htold _, ?_, hcomm (.require .dun) (.forbid .mms) .dun .mms rfl rfl
    (by decide) genuine, hcurrent, hnotified, ?_⟩
  · exact (hstanding _ (by decide) .mms).1.mpr (by decide)
  · intro hread
    exact hnews s resumption told before hnotified hcurrent ⟨rfl, rfl, rfl, hread⟩

end Capabilities

end Rangelink
