import Rangelink.Proofs.Request.Builder
import Rangelink.Request.Template

/-! # Which networks the requests of a tracker match

Route selection goes by capabilities alone. A bring-up matches those of the same
networks that have its transport and, for a subscription, its specifier, so that
it keeps up nothing that could not be selected.
-/
namespace Rangelink

namespace Capabilities
variable {cs network : Capabilities}

/-- A transport that is the only one named must be there. -/
theorem accepts_addTransport (h : cs.transports = .empty) (t : Transport) :
    (cs.addTransport t).accepts network = true ↔
      cs.accepts network = true ∧ network.hasTransport t = true := by
  have hnone : cs.transports.isEmpty = true := by rw [h]; rfl
  have hsome : (cs.addTransport t).transports.isEmpty = false := by
    simp [addTransport, h]
    rfl
  have honly : ∀ u, u ∈ (cs.addTransport t).transports ↔ u = t := by
    intro u
    simp [addTransport, h]
  rw [accepts_iff, accepts_iff]
  simp only [hnone, hsome, honly, exists_eq_left, Bool.false_eq_true, false_or, true_or, true_and]
  constructor
  · rintro ⟨hwanted, hunwanted, ht, hrest⟩
    exact ⟨⟨hwanted, hunwanted, hrest⟩, ht⟩
  · rintro ⟨⟨hwanted, hunwanted, hrest⟩, ht⟩
    exact ⟨hwanted, hunwanted, ht, hrest⟩

theorem accepts_specify (h : cs.specifier = none) (sub : SubscriptionId) (network : Capabilities) :
    (cs.specify (some (.telephony sub))).accepts network = true ↔
      cs.accepts network = true ∧ network.specifier = some (.telephony sub) := by
  have hspecifier : specifierAccepts (some (.telephony sub)) network.specifier = true ↔
      network.specifier = some (.telephony sub) := by
    simp [specifierAccepts]
  rw [accepts_iff, accepts_iff, h]
  simp only [specify, hspecifier]
  simp only [specifierAccepts, true_and]
  constructor
  · rintro ⟨hwanted, hunwanted, htransports, hs, hrest⟩
    exact ⟨⟨hwanted, hunwanted, htransports, hrest⟩, hs⟩
  · rintro ⟨⟨hwanted, hunwanted, htransports, hrest⟩, hs⟩
    exact ⟨hwanted, hunwanted, htransports, hs, hrest⟩

theorem markRestricted_of_not_mem (h : .notRestricted ∉ cs.wanted) : cs.markRestricted = cs := by
  have hsame : cs.wanted.erase .notRestricted = cs.wanted := by
    ext c
    rw [SortedSet.mem_erase, and_iff_left_iff_imp]
    rintro hc rfl
    exact h hc
  unfold markRestricted
  rw [hsame, ite_self]

/-- Nothing but capabilities is asked for. -/
structure Plain (cs : Capabilities) : Prop where
  transports : cs.transports = .empty
  specifier : cs.specifier = none
  up : cs.up = 0
  down : cs.down = 0

theorem Plain.accepts_iff (h : cs.Plain) :
    cs.accepts network = true ↔
      (∀ c ∈ cs.wanted, network.has c = true) ∧ ∀ c ∈ cs.unwanted, network.has c = false := by
  rw [Capabilities.accepts_iff, h.transports, h.specifier, h.up, h.down]
  simp [specifierAccepts, SortedSet.isEmpty, SortedSet.empty]

end Capabilities

namespace RequestBuilder
variable {b : RequestBuilder} {c : Capability}

def requireEach (cs : List Capability) (b : RequestBuilder) : RequestBuilder :=
  cs.foldl (fun b c => b.require c) b

theorem requireEach_keeps (P : RequestBuilder → Prop) (next : ∀ b c, P b → P (b.require c))
    (cs : List Capability) (h : P b) : P (b.requireEach cs) := by
  induction cs generalizing b with
  | nil => exact h
  | cons c rest ih => exact ih (next b c h)

theorem mem_wanted_requireEach (cs : List Capability) (b : RequestBuilder) :
    c ∈ (b.requireEach cs).capabilities.wanted ↔ c ∈ cs ∨ c ∈ b.capabilities.wanted := by
  induction cs generalizing b with
  | nil => simp [requireEach]
  | cons d rest ih =>
    have hstep : c ∈ (b.require d).capabilities.wanted ↔ c = d ∨ c ∈ b.capabilities.wanted :=
      Capabilities.mem_wanted_require
    have hcons : b.requireEach (d :: rest) = (b.require d).requireEach rest := rfl
    rw [hcons, ih, hstep, List.mem_cons, or_left_comm, or_assoc]

end RequestBuilder

namespace Request
open RequestBuilder (requireEach)
variable {required : SortedSet Capability} {network : Capabilities} {c : Capability}
  {b : RequestBuilder}

theorem base_eq (required : SortedSet Capability) :
    base required =
      ((((RequestBuilder.new.requireEach required.toList).release .trusted).release
        .notRestricted).release .notVcnManaged).forbid .notVcnManaged := rfl

/-- What a builder asks for is passed on unchanged if nothing is left to deduce or to mark. -/
theorem capabilities_background (hd : b.deduces = false)
    (hr : .notRestricted ∉ b.capabilities.wanted) :
    (background b).capabilities = b.capabilities := by
  have hadds : b.addsNotVcnManaged = false := by
    rw [RequestBuilder.addsNotVcnManaged, hd, Bool.false_and]
  calc (background b).capabilities
      _ = b.build.capabilities := rfl
      _ = b.capabilities.markRestricted := by simp [RequestBuilder.capabilities_build, hadds]
      _ = b.capabilities := Capabilities.markRestricted_of_not_mem hr

theorem accepts_background (hd : b.deduces = false)
    (hr : .notRestricted ∉ b.capabilities.wanted) :
    (background b).accepts network = b.capabilities.accepts network := by
  rw [accepts, capabilities_background hd hr]

theorem deduces_base (required : SortedSet Capability) : (base required).deduces = false :=
  Bool.and_false _

theorem mem_wanted_base :
    c ∈ (base required).capabilities.wanted ↔
      (c = .notVpn ∨ c ∈ required) ∧ c ≠ .trusted ∧ c ≠ .notRestricted ∧ c ≠ .notVcnManaged := by
  have hnew : c ∈ RequestBuilder.new.capabilities.wanted ↔
      c = .notRestricted ∨ c = .trusted ∨ c = .notVpn := by
    cases c <;> decide
  have hbase : c ∈ (base required).capabilities.wanted ↔
      c ∈ (RequestBuilder.new.requireEach required.toList).capabilities.wanted ∧ c ≠ .trusted ∧
        c ≠ .notRestricted ∧ c ≠ .notVcnManaged := by
    rw [base_eq]
    simp [RequestBuilder.forbid, RequestBuilder.release, RequestBuilder.settle,
      RequestBuilder.onCapabilities, and_assoc]
  rw [hbase, RequestBuilder.mem_wanted_requireEach, hnew, ← SortedSet.mem_def]
  constructor
  · rintro ⟨hc, ht, hr, hv⟩
    refine ⟨?_, ht, hr, hv⟩
    rcases hc with hc | hc | hc | hc
    · exact Or.inr hc
    · exact absurd hc hr
    · exact absurd hc ht
    · exact Or.inl hc
  · rintro ⟨hc | hc, ht, hr, hv⟩
    · exact ⟨Or.inr (Or.inr (Or.inr hc)), ht, hr, hv⟩
    · exact ⟨Or.inl hc, ht, hr, hv⟩

theorem mem_unwanted_base : c ∈ (base required).capabilities.unwanted ↔ c = .notVcnManaged := by
  have hnone : c ∉ (RequestBuilder.new.requireEach required.toList).capabilities.unwanted := by
    refine RequestBuilder.requireEach_keeps (fun b => c ∉ b.capabilities.unwanted) ?_ _ ?_
    · intro b d h hc
      exact h (Capabilities.mem_unwanted_require.mp hc).1
    · cases c <;> decide
  rw [base_eq]
  simp [RequestBuilder.forbid, RequestBuilder.release, RequestBuilder.settle,
    RequestBuilder.onCapabilities, hnone]

theorem plain_base (required : SortedSet Capability) : (base required).capabilities.Plain := by
  have hplain : (RequestBuilder.new.requireEach required.toList).capabilities.Plain := by
    refine RequestBuilder.requireEach_keeps (fun b => b.capabilities.Plain) ?_ _ ?_
    · rintro b c ⟨ht, hs, hu, hd⟩
      exact ⟨ht, hs, hu, hd⟩
    · exact ⟨rfl, rfl, rfl, rfl⟩
  obtain ⟨ht, hs, hu, hd⟩ := hplain
  exact ⟨ht, hs, hu, hd⟩

theorem notRestricted_not_mem_base (required : SortedSet Capability) :
    .notRestricted ∉ (base required).capabilities.wanted := by
  intro h
  exact (mem_wanted_base.mp h).2.2.1 rfl

theorem accepts_routeSelection :
    (routeSelection required).accepts network = true ↔
      (base required).capabilities.accepts network = true := by
  rw [routeSelection,
    accepts_background (deduces_base required) (notRestricted_not_mem_base required)]

/-- The marks of the required capabilities and of the defaults leave no trace in what a network must
have to be a candidate. -/
theorem accepts_routeSelection_iff :
    (routeSelection required).accepts network = true ↔
      network.has .notVpn = true ∧
        (∀ c ∈ required, c ≠ .trusted → c ≠ .notRestricted → c ≠ .notVcnManaged →
          network.has c = true) ∧
        network.has .notVcnManaged = false := by
  rw [accepts_routeSelection, (plain_base required).accepts_iff]
  simp only [mem_wanted_base, mem_unwanted_base]
  constructor
  · rintro ⟨hwanted, hunwanted⟩
    refine ⟨?_, ?_, hunwanted _ rfl⟩
    · exact hwanted _ ⟨Or.inl rfl, by decide, by decide, by decide⟩
    · intro c hc ht hr hv
      exact hwanted c ⟨Or.inr hc, ht, hr, hv⟩
  · rintro ⟨hvpn, hrequired, hvcn⟩
    constructor
    · rintro c ⟨rfl | hc, ht, hr, hv⟩
      · exact hvpn
      · exact hrequired c hc ht hr hv
    · rintro c rfl
      exact hvcn

theorem accepts_wifiBringup_iff :
    (wifiBringup required).accepts network = true ↔
      (routeSelection required).accepts network = true ∧ network.hasTransport .wifi = true := by
  have hbuilt : (wifiBringup required).accepts network =
      ((base required).capabilities.addTransport .wifi).accepts network :=
    accepts_background (b := (base required).addTransport .wifi) (deduces_base required)
      (notRestricted_not_mem_base required)
  rw [hbuilt, Capabilities.accepts_addTransport (plain_base required).transports,
    accepts_routeSelection]

theorem accepts_cellBringup_iff {sub : SubscriptionId} {cell : Request}
    (h : cellBringup required sub = .ok cell) :
    cell.accepts network = true ↔
      (routeSelection required).accepts network = true ∧ network.hasTransport .cellular = true ∧
        network.specifier = some (.telephony sub) := by
  cases h
  have htransport : ((base required).addTransport .cellular).capabilities.accepts network = true ↔
      (base required).capabilities.accepts network = true ∧
        network.hasTransport .cellular = true :=
    Capabilities.accepts_addTransport (plain_base required).transports .cellular
  have hspecifier : ((base required).addTransport .cellular).capabilities.specifier = none :=
    (plain_base required).specifier
  have hcell := Capabilities.accepts_specify hspecifier sub network
  rw [htransport] at hcell
  rw [accepts_background, accepts_routeSelection, ← and_assoc]
  · exact hcell
  · exact deduces_base required
  · exact notRestricted_not_mem_base required

/-- A network is a candidate for route selection by its capabilities alone, whatever class the
required ones are of. Wi-Fi is kept up for the candidates with that transport, and cellular for
those with that transport and the subscription's specifier, which no two subscriptions share. -/
theorem bringups_match_candidates (required : SortedSet Capability) (network : Capabilities)
    (sub : SubscriptionId) :
    ((routeSelection required).accepts network = true ↔
        network.has .notVpn = true ∧
          (∀ c ∈ required, c ≠ .trusted → c ≠ .notRestricted → c ≠ .notVcnManaged →
            network.has c = true) ∧
          network.has .notVcnManaged = false) ∧
      ((wifiBringup required).accepts network = true ↔
        (routeSelection required).accepts network = true ∧ network.hasTransport .wifi = true) ∧
      ∃ cell, cellBringup required sub = .ok cell ∧
        (cell.accepts network = true ↔
          (routeSelection required).accepts network = true ∧
            network.hasTransport .cellular = true ∧
            network.specifier = some (.telephony sub)) ∧
        ∀ sub' cell', sub ≠ sub' → cellBringup required sub' = .ok cell' →
          ¬ (cell.accepts network = true ∧ cell'.accepts network = true) := by
  refine ⟨accepts_routeSelection_iff, accepts_wifiBringup_iff, _, rfl,
    accepts_cellBringup_iff rfl, ?_⟩
  rintro sub' cell' hne hcell' ⟨h, h'⟩
  have hcell : cellBringup required sub = .ok _ := rfl
  obtain ⟨-, -, hs⟩ := (accepts_cellBringup_iff hcell).mp h
  obtain ⟨-, -, hs'⟩ := (accepts_cellBringup_iff hcell').mp h'
  exact hne (Specifier.telephony.inj (Option.some.inj (hs.symm.trans hs')))

/-- A restricted capability and a carrier-managed network among the required ones do not keep the
network of one subscription from being a candidate, and it is kept up for that one alone. -/
theorem bringups_match_candidates_dun :
    let required : SortedSet Capability := .ofList [.dun, .trusted, .notVcnManaged]
    let network : Capabilities :=
      .made [.require .dun, .require .notVpn, .addTransport .cellular,
        .specify (some (.telephony ⟨1⟩))]
    (routeSelection required).accepts network = true ∧
      (wifiBringup required).accepts network = false ∧
      ∃ cell cell', cellBringup required ⟨1⟩ = .ok cell ∧ cellBringup required ⟨2⟩ = .ok cell' ∧
        cell.accepts network = true ∧ cell'.accepts network = false := by
  intro required network
  obtain ⟨hroute, hwifi, cell, hcell, hmatch, hother⟩ :=
    bringups_match_candidates required network ⟨1⟩
  have hselects : (routeSelection required).accepts network = true :=
    hroute.mpr (by decide)
  have hkept : cell.accepts network = true := hmatch.mpr ⟨hselects, by decide, by decide⟩
  refine ⟨hselects, ?_, cell, _, hcell, rfl, hkept, ?_⟩
  · rw [← Bool.not_eq_true, hwifi]
    rintro ⟨-, h⟩
    exact absurd h (by decide)
  · rw [← Bool.not_eq_true]
    intro h
    exact hother ⟨2⟩ _ (by decide) rfl ⟨hkept, h⟩

end Request

end Rangelink
