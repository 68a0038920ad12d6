import Rangelink.Proofs.RouteSelection.Notification
import Rangelink.Proofs.Scenario.Drawing

/-! # Scenarios fed to a route selection

Whatever is drawn, a fresh selection that is fed a scenario selects its network
with the fourth event and tells each record of it once in a row. It lets the
network go only with the loss that may end the scenario.
-/
namespace Rangelink

namespace RouteSelection
variable {s : RouteSelection} {n : NetworkId} {changes : List NetworkChange}

theorem tracked_of_candidate {r : NetworkRecord} (h : s.candidate = some r) :
    s.tracked = some r.network := by
  obtain ⟨d, hd, hr⟩ := Option.bind_eq_some_iff.mp h
  obtain ⟨network, _ | cs, _ | link, _ | blocked⟩ := d <;> cases hr
  rw [tracked, hd]
  rfl

/-- Reports about the tracked network bring records of it and leave it tracked. -/
theorem replay_reports (h : s.tracked = some n) (place : Nat)
    (reports : ∀ change ∈ changes, change.isReport = true) :
    (s.after (changes.map (⟨n, ·⟩))).tracked = some n ∧
      ∃ records : List (Nat × NetworkRecord),
        replay place s (changes.map (⟨n, ·⟩)) = records.map (fun p => (p.1, some p.2)) ∧
          ∀ p ∈ records, p.2.network = n := by
  induction changes generalizing s place with
  | nil => exact ⟨h, [], rfl, by simp⟩
  | cons change rest ih =>
    obtain ⟨hreport, hrest⟩ := List.forall_mem_cons.mp reports
    have htracked : (s.apply ⟨n, change⟩).1.tracked = some n := by
      rw [apply_report (e := ⟨n, change⟩) hreport, tracked_update]
      exact h
    obtain ⟨hlater, records, hrecords, hnetworks⟩ := ih htracked (place + 1) hrest
    refine ⟨hlater, ?_⟩
    rw [List.map_cons, replay_cons, hrecords]
    rcases hn : (s.apply ⟨n, change⟩).2 with _ | _ | r
    · exact ⟨records, rfl, hnetworks⟩
    · obtain ⟨hlost, -⟩ := apply_eq_withdrawn_iff.mp hn
      rw [show change = .lost from hlost] at hreport
      cases hreport
    · obtain ⟨-, -, hcandidate, -⟩ := apply_eq_selected_iff.mp hn
      have hnetwork := tracked_of_candidate hcandidate
      rw [htracked] at hnetwork
      refine ⟨(place, r) :: records, rfl, List.forall_mem_cons.mpr ⟨?_, hnetworks⟩⟩
      exact (Option.some.inj hnetwork).symm

end RouteSelection

namespace Scenario
open RouteSelection (replay notifications after)

namespace Scene

/-- The record that the burst at the opening adds up to. -/
def record (n : NetworkId) (s : Scene) : NetworkRecord := ⟨n, s.capabilities, s.link, s.blocked⟩

theorem isReport_report (turn : Turn) (s : Scene) : (s.report turn).isReport = true := by
  cases turn with
  | suspension =>
    simp only [report]
    split <;> rfl
  | duplicate => rfl
  | blocking => rfl
  | toggle c => rfl
  | mtu value => rfl

theorem isReport_play (turns : List Turn) (s : Scene) :
    ∀ change ∈ s.play turns, change.isReport = true := by
  induction turns generalizing s with
  | nil => simp [play]
  | cons turn rest ih => exact List.forall_mem_cons.mpr ⟨isReport_report turn _, ih _⟩

end Scene

/-- The burst at the opening is told with its fourth event, as one record. -/
theorem replay_burst (n : NetworkId) (s : Scene) :
    replay 0 {} ((s.burst.take 3).map (⟨n, ·⟩)) = [] ∧
      replay 0 {} (s.burst.map (⟨n, ·⟩)) = [(3, some (s.record n))] ∧
      (RouteSelection.after (s.burst.map (⟨n, ·⟩)) {}).tracked = some n := by
  let s₁ : RouteSelection := { inProgress := some { network := n } }
  let s₂ : RouteSelection :=
    { inProgress := some { network := n, capabilities := some s.capabilities }
      genuine := some s.capabilities }
  let s₃ : RouteSelection :=
    { inProgress := some { network := n, capabilities := some s.capabilities, link := some s.link }
      genuine := some s.capabilities }
  let s₄ : RouteSelection :=
    { inProgress := some ⟨n, some s.capabilities, some s.link, some s.blocked⟩
      genuine := some s.capabilities
      current := some (s.record n) }
  have h₁ : RouteSelection.apply ⟨n, .available⟩ {} = (s₁, none) := rfl
  have h₂ : s₁.apply ⟨n, .capabilities s.capabilities⟩ = (s₂, none) := if_pos rfl
  have h₃ : s₂.apply ⟨n, .link s.link⟩ = (s₃, none) := if_pos rfl
  have h₄ : s₃.apply ⟨n, .blocked s.blocked⟩ = (s₄, some (some (s.record n))) := if_pos rfl
  refine ⟨?_, ?_, ?_⟩
  · simp [Scene.burst, replay, h₁, h₂, h₃]
  · simp [Scene.burst, replay, h₁, h₂, h₃, h₄]
  · simp only [Scene.burst, List.map_cons, List.map_nil, RouteSelection.after, List.foldl_cons,
      List.foldl_nil, h₁, h₂, h₃, h₄]
    rfl

/-- Up to its end, a scenario is told as records of its network, from the fourth event on. -/
theorem replay_body (n : NetworkId) (s : Scene) (turns : List Turn) :
    (RouteSelection.after ((s.burst ++ s.play turns).map (⟨n, ·⟩)) {}).tracked = some n ∧
      ∃ records : List (Nat × NetworkRecord),
        replay 0 {} ((s.burst ++ s.play turns).map (⟨n, ·⟩)) =
            ((3, s.record n) :: records).map (fun p => (p.1, some p.2)) ∧
          ∀ p ∈ (3, s.record n) :: records, p.2.network = n := by
  obtain ⟨-, hburst, htracked⟩ := replay_burst n s
  obtain ⟨hplayed, records, hrecords, hnetworks⟩ :=
    RouteSelection.replay_reports htracked (0 + (s.burst.map (⟨n, ·⟩ : _ → NetworkEvent)).length)
      (Scene.isReport_play turns s)
  rw [List.map_append]
  refine ⟨?_, records, ?_, List.forall_mem_cons.mpr ⟨rfl, hnetworks⟩⟩
  · rw [RouteSelection.after_append]
    exact hplayed
  · rw [RouteSelection.replay_append, hburst, hrecords]
    rfl

theorem isChain_ne_of_records {records : List NetworkRecord}
    (h : (records.map some).IsChain fun a b => a = b → a = none) :
    (records.map some).IsChain (· ≠ ·) := by
  rw [List.isChain_map] at h ⊢
  refine h.imp ?_
  intro a b himp hab
  cases himp hab

/-- How a fresh selection takes a scenario in: nothing is told of the first three events, the record
of the opening with the fourth, and after that only records of the same network, none twice in a
row. A loss is told once, for the event that ends the scenario, if it ends so; otherwise the network
stays selected by the record that was told last. -/
structure Replayed (config : ScenarioConfig) (events : List NetworkEvent) : Prop where
  silent : replay 0 {} (events.take 3) = []
  selected : replay 0 {} (events.take 4) =
    [(3, some ((Scene.opening config.interfaceName).record config.network))]
  course : ∃ records : List (Nat × NetworkRecord),
    replay 0 {} events = records.map (fun p => (p.1, some p.2)) ++
      (if config.loseAtEnd then [(events.length - 1, none)] else []) ∧
    ∀ p ∈ records, p.2.network = config.network
  changes : (notifications events {}).IsChain (· ≠ ·)
  kept : config.loseAtEnd = false →
    (RouteSelection.after events {}).tracked = some config.network ∧
      (notifications events {}).getLast? = some (RouteSelection.after events {}).current

theorem replayed_events (config : ScenarioConfig) (turns : List Turn) :
    Replayed config (events config turns) := by
  let scene := Scene.opening config.interfaceName
  let body : List NetworkEvent := (scene.burst ++ scene.play turns).map (⟨config.network, ·⟩)
  obtain ⟨hsilent, hselected, -⟩ := replay_burst config.network scene
  obtain ⟨htracked, records, hrecords, hnetworks⟩ := replay_body config.network scene turns
  have htold : notifications body {} = (((3, scene.record config.network) :: records).map
      Prod.snd).map some := by
    rw [← RouteSelection.map_replay 0, hrecords, List.map_map, List.map_map]
    rfl
  have hbody : (notifications body {}).IsChain (· ≠ ·) := by
    have hchain := RouteSelection.notifications_chain body
    rw [htold] at hchain ⊢
    exact isChain_ne_of_records hchain
  have hcurrent := RouteSelection.current_after body
  cases hend : config.loseAtEnd with
  | false =>
    have hevents : events config turns = body := by
      simp [events, hend, body, scene]
    rw [hevents]
    refine ⟨hsilent, hselected, ⟨_, ?_, hnetworks⟩, hbody, fun _ => ⟨htracked, ?_⟩⟩
    · rw [hend, hrecords]
      simp
    · rw [hcurrent, htold, List.map_cons, List.map_cons, List.getLast?_cons]
      rfl
  | true =>
    have hlost : (RouteSelection.after body {}).apply ⟨config.network, .lost⟩ = ({}, some none) :=
      if_pos (Or.inl htracked)
    have hevents : events config turns = body ++ [⟨config.network, .lost⟩] := by
      simp [events, hend, body, scene]
    rw [hevents]
    refine ⟨hsilent, hselected, ⟨_, ?_, hnetworks⟩, ?_, fun h => ?_⟩
    · rw [hend, RouteSelection.replay_append, hrecords, RouteSelection.replay_cons, hlost]
      simp [replay]
    · rw [RouteSelection.notifications_concat, hlost]
      refine List.isChain_append.mpr ⟨hbody, List.isChain_singleton _, ?_⟩
      intro n hn n' hn'
      rw [htold] at hn
      obtain ⟨r, -, rfl⟩ := List.mem_map.mp (List.mem_of_getLast? hn)
      cases hn'
      exact Option.some_ne_none r
    · rw [hend] at h
      cases h

/-- A configuration of probabilities gives a scenario from every state of any source whose draws are
in their ranges, and each of its scenarios, whatever is drawn, is a faithful exercise for a
selection. So is all that comes of the seeded generator. -/
theorem replayed_for_every_draw {config : ScenarioConfig} (probable : config.IsProbable) :
    (∀ turns, Replayed config (events config turns)) ∧
      (∀ {σ : Type} (draws : Draws σ), draws.InRange → ∀ s, ∃ turns,
        turns.length = config.steps ∧
          generateFrom? draws config s = some (events config turns)) ∧
      ∀ entropy drawn, generate? config entropy = some drawn → ∃ turns,
        turns.length = config.steps ∧ drawn = events config turns := by
  refine ⟨replayed_events config, ?_, ?_⟩
  · intro σ draws inRange s
    obtain ⟨turns, hlength, -, hevents⟩ := exists_generateFrom inRange probable s
    exact ⟨turns, hlength, hevents⟩
  · intro entropy drawn hdrawn
    obtain ⟨turns, hlength, -, hevents⟩ := turns_of_generateFrom Generator.bounded_draws hdrawn
    exact ⟨turns, hlength, hevents⟩

/-- Steps that only suspend and resume, drawn from a seed and lost at the end. -/
theorem replayed_for_every_draw_suspensions :
    let config : ScenarioConfig :=
      { steps := 2, suspend := .one, loseAtEnd := true, seed := some 7 }
    let turns : List Turn := [.suspension, .suspension]
    config.IsProbable ∧ Generator.firstDraws.InRange ∧ Replayed config (events config turns) ∧
      (notifications (events config turns) {}).map Option.isSome = [true, true, true, false] ∧
      (∃ drawn, generateFrom? Generator.firstDraws config (.ofSeed 7) = some drawn ∧
        Replayed config drawn) ∧
      generate? config 0 = some (events config turns) := by
  intro config turns
  have probable : config.IsProbable := ⟨by decide, by decide, by decide⟩
  have inRange := Generator.inRange_firstDraws
  obtain ⟨hreplayed, hgenerate, -⟩ := replayed_for_every_draw probable
  obtain ⟨drawn, -, hdrawn⟩ := hgenerate Generator.firstDraws inRange (.ofSeed 7)
  exact ⟨probable, inRange, hreplayed turns, by decide, ⟨_, hdrawn, hreplayed drawn⟩,
    by decide +kernel⟩

end Scenario

end Rangelink
