import Rangelink.Proofs.RouteSelection.History
import Rangelink.Proofs.Scenario.Replay

/-! # The shape of scenarios

Whatever is drawn, a scenario is the story of one network that comes up, is
reported on, and may be lost in the end. Each kind of report goes on from the
last of its kind, however many others lie between.
-/
namespace Rangelink

namespace Capabilities

/-- Two sets differ in one capability and in nothing else. -/
def DifferIn (c : Capability) (cs cs' : Capabilities) : Prop :=
  cs' = { cs with wanted := cs'.wanted } ∧ ∀ d, cs'.has d = cs.has d ↔ d ≠ c

/-- The parts of a cellular network's capabilities that do not come and go. -/
structure IsCellular (cs : Capabilities) : Prop where
  internet : cs.has .internet = true
  notSuspended : cs.has .notSuspended = true
  notVpn : cs.has .notVpn = true
  notRoaming : cs.has .notRoaming = true
  cellular : cs.hasTransport .cellular = true
  up : cs.up = 10000
  down : cs.down = 50000

end Capabilities

namespace Scenario
open RouteSelection.History (capabilities? link? blocked? suspension?)

/-- The next report of capabilities repeats the last one, or validation or metering has changed. -/
def Follows (cs cs' : Capabilities) : Prop :=
  cs' = cs ∨ cs.DifferIn .validated cs' ∨ cs.DifferIn .notMetered cs'

/-- A link of which only the largest size of a packet may have changed, to one that is in range. -/
def ResizedFrom (link link' : Link) : Prop :=
  link' = { link with mtu := link'.mtu } ∧ ∃ mtu, link'.mtu = some mtu ∧ 1280 ≤ mtu ∧ mtu ≤ 1500

namespace Scene
variable {s : Scene} {turn : Turn} {turns : List Turn} {n : NetworkId}

/-- A scene that a scenario comes to from its opening. -/
structure Plausible (interfaceName : String) (s : Scene) : Prop where
  cellular : s.capabilities.IsCellular
  unwanted : s.capabilities.unwanted = .empty
  link : ResizedFrom (opening interfaceName).link s.link

theorem plausible_opening (interfaceName : String) :
    Plausible interfaceName (opening interfaceName) where
  cellular := ⟨rfl, rfl, rfl, rfl, rfl, rfl, rfl⟩
  unwanted := rfl
  link := ⟨rfl, 1500, rfl, by decide, by decide⟩

theorem differIn_toggled {cs : Capabilities} (h : cs.unwanted = .empty) (c : Capability) :
    cs.DifferIn c (toggled c cs) := by
  have hunwanted : cs.unwanted.erase c = cs.unwanted := by
    rw [h]
    rfl
  unfold toggled
  by_cases hc : cs.has c = true
  · rw [if_pos hc]
    refine ⟨by simp [Capabilities.release, hunwanted], ?_⟩
    intro d
    by_cases hd : d = c
    · subst hd
      simpa [Capabilities.has, Capabilities.release, SortedSet.contains] using hc
    · simp [Capabilities.has, Capabilities.release, SortedSet.contains, hd]
  · rw [if_neg hc]
    refine ⟨by simp [Capabilities.require, hunwanted], ?_⟩
    intro d
    by_cases hd : d = c
    · subst hd
      simpa [Capabilities.has, Capabilities.require, SortedSet.contains] using hc
    · simp [Capabilities.has, Capabilities.require, SortedSet.contains, hd]

theorem plausible_after {interfaceName : String} (h : Plausible interfaceName s)
    (drawn : turn.IsDrawn) : Plausible interfaceName (s.after turn) := by
  obtain ⟨hcellular, hunwanted, hlink⟩ := h
  cases turn with
  | duplicate => exact ⟨hcellular, hunwanted, hlink⟩
  | suspension => exact ⟨hcellular, hunwanted, hlink⟩
  | blocking => exact ⟨hcellular, hunwanted, hlink⟩
  | mtu value =>
    refine ⟨hcellular, hunwanted, ?_, value, rfl, drawn⟩
    simp only [after]
    rw [hlink.1]
  | toggle c =>
    obtain ⟨hrest, hdiffer⟩ := differIn_toggled hunwanted c
    have hkept : ∀ d, d ≠ .validated → d ≠ .notMetered →
        (toggled c s.capabilities).has d = s.capabilities.has d := by
      intro d hvalidated hnotMetered
      refine (hdiffer d).mpr ?_
      rintro rfl
      exact drawn.elim hvalidated hnotMetered
    have htransports := congrArg Capabilities.transports hrest
    refine ⟨?_, (congrArg Capabilities.unwanted hrest).trans hunwanted, hlink⟩
    constructor
    · exact (hkept .internet (by decide) (by decide)).trans hcellular.internet
    · exact (hkept .notSuspended (by decide) (by decide)).trans hcellular.notSuspended
    · exact (hkept .notVpn (by decide) (by decide)).trans hcellular.notVpn
    · exact (hkept .notRoaming (by decide) (by decide)).trans hcellular.notRoaming
    · exact (congrArg (·.contains Transport.cellular) htransports).trans hcellular.cellular
    · exact (congrArg Capabilities.up hrest).trans hcellular.up
    · exact (congrArg Capabilities.down hrest).trans hcellular.down

/-- A report that a plausible scene can give. -/
def IsPlausible (interfaceName : String) : NetworkChange → Prop
  | .capabilities cs => cs.IsCellular
  | .link link => ResizedFrom (opening interfaceName).link link
  | .available | .blocked _ | .suspended | .resumed | .lost => True

theorem isPlausible_report {interfaceName : String} (h : Plausible interfaceName s) (turn : Turn) :
    IsPlausible interfaceName (s.report turn) := by
  cases turn with
  | duplicate => exact h.cellular
  | toggle c => exact h.cellular
  | mtu value => exact h.link
  | blocking => trivial
  | suspension =>
    simp only [report]
    split <;> trivial

theorem isPlausible_play {interfaceName : String} (drawn : ∀ turn ∈ turns, turn.IsDrawn)
    (h : Plausible interfaceName s) : ∀ change ∈ s.play turns, IsPlausible interfaceName change := by
  induction turns generalizing s with
  | nil => exact List.forall_mem_nil _
  | cons turn rest ih =>
    obtain ⟨hturn, hrest⟩ := List.forall_mem_cons.mp drawn
    have hafter := plausible_after h hturn
    exact List.forall_mem_cons.mpr ⟨isPlausible_report hafter turn, ih hrest hafter⟩

/-- A scene shows at any time what was told last. If a turn either leaves the view of the scene alone
and does not tell of it, or tells of a view that follows the one before, then all that is told of
it in a play follows on the view at the beginning. -/
theorem isChain_play {β : Type} {R : β → β → Prop} {view : Scene → β}
    {value? : NetworkEvent → Option β} {interfaceName : String}
    (tells : ∀ turn s, turn.IsDrawn → Plausible interfaceName s →
      (value? ⟨n, (s.after turn).report turn⟩ = none ∧ view (s.after turn) = view s) ∨
        (value? ⟨n, (s.after turn).report turn⟩ = some (view (s.after turn)) ∧
          R (view s) (view (s.after turn))))
    (drawn : ∀ turn ∈ turns, turn.IsDrawn) (h : Plausible interfaceName s) :
    (view s :: ((s.play turns).map (⟨n, ·⟩ : _ → NetworkEvent)).filterMap value?).IsChain R := by
  induction turns generalizing s with
  | nil => exact List.isChain_singleton _
  | cons turn rest ih =>
    obtain ⟨hturn, hrest⟩ := List.forall_mem_cons.mp drawn
    have hlater := ih hrest (plausible_after h hturn)
    rw [play, List.map_cons]
    rcases tells turn s hturn h with ⟨hnone, hview⟩ | ⟨hsome, hfollows⟩
    · rw [List.filterMap_cons_none hnone, ← hview]
      exact hlater
    · rw [List.filterMap_cons_some hsome]
      exact List.isChain_cons_cons.mpr ⟨hfollows, hlater⟩

def suspension (s : Scene) : Suspension := if s.suspended then .suspended else .resumed

theorem isChain_suspensions {interfaceName : String} (n : NetworkId)
    (drawn : ∀ turn ∈ turns, turn.IsDrawn) (h : Plausible interfaceName s) :
    (s.suspension :: ((s.play turns).map (⟨n, ·⟩ : _ → NetworkEvent)).filterMap
      (suspension? n)).IsChain (· ≠ ·) := by
  refine isChain_play ?_ drawn h
  intro turn s _ _
  cases turn with
  | suspension => cases hs : s.suspended <;> simp [after, report, suspension, suspension?, hs]
  | duplicate => exact Or.inl ⟨rfl, rfl⟩
  | blocking => exact Or.inl ⟨rfl, rfl⟩
  | toggle c => exact Or.inl ⟨rfl, rfl⟩
  | mtu value => exact Or.inl ⟨rfl, rfl⟩

theorem isChain_blocked {interfaceName : String} (n : NetworkId)
    (drawn : ∀ turn ∈ turns, turn.IsDrawn) (h : Plausible interfaceName s) :
    (s.blocked :: ((s.play turns).map (⟨n, ·⟩ : _ → NetworkEvent)).filterMap
      (blocked? n)).IsChain fun b b' => b' = !b := by
  refine isChain_play ?_ drawn h
  intro turn s _ _
  cases turn with
  | blocking => exact Or.inr ⟨if_pos rfl, rfl⟩
  | suspension => cases hs : s.suspended <;> simp [after, report, blocked?, hs]
  | duplicate => exact Or.inl ⟨rfl, rfl⟩
  | toggle c => exact Or.inl ⟨rfl, rfl⟩
  | mtu value => exact Or.inl ⟨rfl, rfl⟩

theorem isChain_capabilities {interfaceName : String} (n : NetworkId)
    (drawn : ∀ turn ∈ turns, turn.IsDrawn) (h : Plausible interfaceName s) :
    (s.capabilities :: ((s.play turns).map (⟨n, ·⟩ : _ → NetworkEvent)).filterMap
      (capabilities? n)).IsChain Follows := by
  refine isChain_play ?_ drawn h
  intro turn s hturn hs
  cases turn with
  | duplicate => exact Or.inr ⟨if_pos rfl, Or.inl rfl⟩
  | toggle c =>
    have hdiffer := differIn_toggled hs.unwanted c
    refine Or.inr ⟨if_pos rfl, Or.inr ?_⟩
    rcases hturn with rfl | rfl
    · exact Or.inl hdiffer
    · exact Or.inr hdiffer
  | suspension => cases hs : s.suspended <;> simp [after, report, capabilities?, hs]
  | blocking => exact Or.inl ⟨rfl, rfl⟩
  | mtu value => exact Or.inl ⟨rfl, rfl⟩

theorem length_play (turns : List Turn) (s : Scene) : (s.play turns).length = turns.length := by
  induction turns generalizing s with
  | nil => rfl
  | cons turn rest ih => exact congrArg (· + 1) (ih _)

end Scene

/-- How a scenario of a configuration goes. The network comes up with four events, is reported on as
often as there are steps, and is lost at the end or not at all. Suspensions and resumptions take
turns, every report on the blocking reverses the last one, and every report of capabilities repeats
the last one or differs from it in validation or in metering. The rest of the capabilities, and the
link up to the largest size of a packet, are those of the opening. -/
structure WellFormed (config : ScenarioConfig) (events : List NetworkEvent) : Prop where
  length : events.length = 4 + config.steps + if config.loseAtEnd then 1 else 0
  network : ∀ e ∈ events, e.network = config.network
  burst : events.take 4 =
    [.available, .capabilities (Scene.opening config.interfaceName).capabilities,
      .link (Scene.opening config.interfaceName).link, .blocked false].map (⟨config.network, ·⟩)
  steps : ∀ e ∈ (events.drop 4).take config.steps, e.change.isReport = true
  ending : events.drop (4 + config.steps) =
    if config.loseAtEnd then [⟨config.network, .lost⟩] else []
  suspensions : (events.filterMap (suspension? config.network)).IsChain (· ≠ ·)
  suspendedFirst : (events.filterMap (suspension? config.network)).head? ≠ some .resumed
  blocked : (events.filterMap (blocked? config.network)).IsChain fun b b' => b' = !b
  capabilities : (events.filterMap (capabilities? config.network)).IsChain Follows
  cellular : ∀ cs ∈ events.filterMap (capabilities? config.network), cs.IsCellular
  links : ∀ link ∈ events.filterMap (link? config.network),
    ResizedFrom (Scene.opening config.interfaceName).link link

section Events
variable {config : ScenarioConfig} {turns : List Turn}

/-- What is not told of a loss is told in the burst at the opening and in the course of the steps. -/
theorem filterMap_events {β : Type} {value? : NetworkEvent → Option β}
    (h : value? ⟨config.network, .lost⟩ = none) (turns : List Turn) :
    let scene := Scene.opening config.interfaceName
    (events config turns).filterMap value? =
      (scene.burst.map (⟨config.network, ·⟩)).filterMap value? ++
        ((scene.play turns).map (⟨config.network, ·⟩)).filterMap value? := by
  intro scene
  have hlast : ((if config.loseAtEnd then [NetworkChange.lost] else []).map
      (⟨config.network, ·⟩ : _ → NetworkEvent)).filterMap value? = [] := by
    split
    · exact List.filterMap_cons_none h
    · rfl
  rw [events, List.map_append, List.map_append, List.filterMap_append, List.filterMap_append, hlast,
    List.append_nil]

theorem isPlausible_events (config : ScenarioConfig) (drawn : ∀ turn ∈ turns, turn.IsDrawn) :
    ∀ e ∈ events config turns, Scene.IsPlausible config.interfaceName e.change := by
  have hopening := Scene.plausible_opening config.interfaceName
  have hplay := Scene.isPlausible_play drawn hopening
  have hburst : ∀ change ∈ (Scene.opening config.interfaceName).burst,
      Scene.IsPlausible config.interfaceName change := by
    simp [Scene.burst, Scene.IsPlausible, hopening.cellular, hopening.link]
  intro e he
  obtain ⟨change, hchange, rfl⟩ := List.mem_map.mp he
  rcases List.mem_append.mp hchange with hchange | hchange
  · rcases List.mem_append.mp hchange with hchange | hchange
    · exact hburst change hchange
    · exact hplay change hchange
  · have hlost : change = .lost := by
      split at hchange
      · exact List.mem_singleton.mp hchange
      · exact absurd hchange List.not_mem_nil
    rw [hlost]
    trivial

theorem wellFormed_events (hlength : turns.length = config.steps)
    (drawn : ∀ turn ∈ turns, turn.IsDrawn) : WellFormed config (events config turns) := by
  let n := config.network
  let scene := Scene.opening config.interfaceName
  let last := if config.loseAtEnd then [NetworkChange.lost] else []
  have hopening : scene.Plausible config.interfaceName := Scene.plausible_opening _
  have hplausible := isPlausible_events config drawn
  have hplay : (scene.play turns).length = config.steps := by rw [Scene.length_play, hlength]
  have hdrop : (events config turns).drop 4 = (scene.play turns ++ last).map (⟨n, ·⟩) := by
    rw [events, List.append_assoc, ← List.map_drop]
    rfl
  have hsuspensions := Scene.isChain_suspensions n drawn hopening
  have hburst : (scene.burst.map (⟨n, ·⟩)).filterMap (suspension? n) = [] := rfl
  have hburstBlocked : (scene.burst.map (⟨n, ·⟩)).filterMap (blocked? n) = [scene.blocked] := by
    simp [Scene.burst, List.filterMap_cons, blocked?]
  have hburstCapabilities :
      (scene.burst.map (⟨n, ·⟩)).filterMap (capabilities? n) = [scene.capabilities] := by
    simp [Scene.burst, List.filterMap_cons, capabilities?]
  constructor
  case length =>
    have hlast : last.length = if config.loseAtEnd then 1 else 0 := by
      simp only [last]
      split <;> rfl
    simp only [events, List.length_map, List.length_append]
    rw [hplay, hlast]
    rfl
  case network =>
    intro e he
    obtain ⟨change, -, rfl⟩ := List.mem_map.mp he
    rfl
  case burst =>
    rw [events, List.append_assoc, ← List.map_take]
    rfl
  case steps =>
    rw [hdrop, ← List.map_take, ← hplay, List.take_left']
    · intro e he
      obtain ⟨change, hchange, rfl⟩ := List.mem_map.mp he
      exact Scene.isReport_play turns scene change hchange
    · rfl
  case ending =>
    rw [← List.drop_drop, hdrop, ← List.map_drop, ← hplay, List.drop_left]
    simp only [last]
    split <;> rfl
  case suspensions =>
    rw [filterMap_events rfl, hburst]
    exact (List.isChain_cons.mp hsuspensions).2
  case suspendedFirst =>
    rw [filterMap_events rfl, hburst]
    intro hresumed
    exact (List.isChain_cons.mp hsuspensions).1 _ hresumed rfl
  case blocked =>
    rw [filterMap_events rfl, hburstBlocked]
    exact Scene.isChain_blocked n drawn hopening
  case capabilities =>
    rw [filterMap_events rfl, hburstCapabilities]
    exact Scene.isChain_capabilities n drawn hopening
  case cellular =>
    intro cs hcs
    obtain ⟨e, he, hreported⟩ := List.mem_filterMap.mp hcs
    have hchange := hplausible e he
    rw [RouteSelection.History.capabilities?_eq_some_iff.mp hreported] at hchange
    exact hchange
  case links =>
    intro link hlink
    obtain ⟨e, he, hreported⟩ := List.mem_filterMap.mp hlink
    have hchange := hplausible e he
    rw [RouteSelection.History.link?_eq_some_iff.mp hreported] at hchange
    exact hchange

/-- Where the numbers of a configuration are probabilities, a scenario comes out of every state of any
source whose draws are in their ranges, and every scenario that can be drawn is well formed. So is
all that comes of the seeded generator. -/
theorem well_formed_for_every_draw {config : ScenarioConfig} (probable : config.IsProbable) :
    (∀ turns : List Turn, turns.length = config.steps → (∀ turn ∈ turns, turn.IsDrawn) →
        WellFormed config (events config turns)) ∧
      (∀ {σ : Type} (draws : Draws σ), draws.InRange → ∀ s, ∃ turns,
        turns.length = config.steps ∧ (∀ turn ∈ turns, turn.IsDrawn) ∧
          generateFrom? draws config s = some (events config turns)) ∧
      ∀ entropy drawn, generate? config entropy = some drawn → ∃ turns,
        turns.length = config.steps ∧ (∀ turn ∈ turns, turn.IsDrawn) ∧
          drawn = events config turns := by
  refine ⟨fun turns => wellFormed_events, ?_, ?_⟩
  · intro σ draws inRange s
    exact exists_generateFrom inRange probable s
  · intro entropy drawn hdrawn
    exact turns_of_generateFrom Generator.bounded_draws hdrawn

/-- Four steps of two kinds, as the seeded generator draws them, and the loss of the network. -/
theorem well_formed_for_every_draw_four_steps :
    let config : ScenarioConfig :=
      { steps := 4, suspend := .half, blocked := .half, loseAtEnd := true, seed := some 7 }
    let turns : List Turn := [.suspension, .suspension, .toggle .validated, .suspension]
    config.IsProbable ∧ Generator.firstDraws.InRange ∧ turns.length = config.steps ∧
      (∀ turn ∈ turns, turn.IsDrawn) ∧ WellFormed config (events config turns) ∧
      (∃ drawn, generateFrom? Generator.firstDraws config (.ofSeed 7) = some drawn ∧
        WellFormed config drawn) ∧
      generate? config 0 = some (events config turns) := by
  intro config turns
  have probable : config.IsProbable := ⟨by decide, by decide, by decide⟩
  have inRange := Generator.inRange_firstDraws
  have hturns : ∀ turn ∈ turns, turn.IsDrawn := by simp [turns, Turn.IsDrawn]
  obtain ⟨hshape, hgenerate, -⟩ := well_formed_for_every_draw probable
  obtain ⟨drawn, hlength, hdraws, hdrawn⟩ :=
    hgenerate Generator.firstDraws inRange (.ofSeed 7)
  exact ⟨probable, inRange, rfl, hturns, hshape turns rfl hturns,
    ⟨_, hdrawn, hshape drawn hlength hdraws⟩, by decide +kernel⟩

end Events

end Scenario

end Rangelink
