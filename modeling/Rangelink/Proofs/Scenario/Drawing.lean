import Rangelink.Scenario

/-! # Scenarios can be drawn

Where the numbers of a configuration are probabilities, every step of a scenario
can be drawn, whatever comes of the draws, as long as they are made in their ranges.
So is all that the seeded generator draws.
-/
namespace Rangelink

namespace Binary64

/-- A number from nought to one; either nought will do. -/
def IsProbability (x : Binary64) : Prop :=
  x.isZero = true ∨ (x.isNegative = false ∧ x.bits ≤ one.bits)

instance (x : Binary64) : Decidable x.IsProbability :=
  inferInstanceAs (Decidable (_ ∨ (_ ∧ _)))

theorem IsProbability.sure_or_inUnitInterval {x : Binary64} (h : x.IsProbability) :
    x = one ∨ x.inUnitInterval = true := by
  rcases h with hzero | ⟨hsign, hle⟩
  · right
    simp [inUnitInterval, hzero]
  · by_cases hone : x.bits = one.bits
    · left
      cases x
      exact congrArg mk hone
    · right
      have hlt : x.bits < one.bits := by
        rw [UInt64.le_iff_toNat_le] at hle
        rw [← UInt64.toNat_inj] at hone
        rw [UInt64.lt_iff_toNat_lt]
        omega
      simp [inUnitInterval, hsign, hlt]

theorem isProbability_half : half.IsProbability := by decide

end Binary64

theorem Generator.exists_chance {p : Binary64} (h : p.IsProbability) (g : Generator) :
    ∃ sure g', g.chance? p = some (sure, g') := by
  unfold chance?
  rcases h.sure_or_inUnitInterval with hone | hunit
  · rw [if_pos hone]
    exact ⟨_, _, rfl⟩
  · rw [if_pos hunit]
    split
    · exact ⟨_, _, rfl⟩
    · exact ⟨_, _, rfl⟩

theorem Generator.share_lt {span : Nat} (h : 0 < span) (word : UInt64) : share span word < span := by
  have hhigh : (word >>> 32).toNat < 2 ^ 32 := by
    have hword := word.toNat_lt
    simp only [UInt64.toNat_shiftRight, Nat.shiftRight_eq_div_pow, UInt64.reduceToNat,
      Nat.reduceMod]
    omega
  exact Nat.div_lt_of_lt_mul (Nat.mul_lt_mul_of_pos_right hhigh h)

theorem Generator.below_lt {span words n : Nat} (hspan : 0 < span) {g g' : Generator}
    (h : below span words g = some (n, g')) : n < span := by
  induction words generalizing g with
  | zero => cases h
  | succ words ih =>
    rw [below] at h
    split at h
    · obtain ⟨rfl, -⟩ := Prod.mk.inj (Option.some.inj h)
      exact share_lt hspan _
    · exact ih h

/-- The words that are allowed decide whether something comes of a draw, and never what. -/
theorem Generator.below_of_le {span words more : Nat} (hle : words ≤ more) {g : Generator}
    {drawn : Nat × Generator} (h : below span words g = some drawn) :
    below span more g = some drawn := by
  induction words generalizing more g with
  | zero => cases h
  | succ words ih =>
    cases more with
    | zero => exact absurd hle (Nat.not_succ_le_zero words)
    | succ more =>
      rw [below] at h ⊢
      by_cases heven : isEven span g.next.1 = true
      · rw [if_pos heven] at h ⊢
        exact h
      · rw [if_neg heven] at h ⊢
        exact ih (Nat.le_of_succ_le_succ hle) h

namespace Draws

/-- A number that is drawn lies below its span. -/
structure Bounded {σ : Type} (draws : Draws σ) : Prop where
  below_lt : ∀ {span n : Nat} {s s' : σ}, 0 < span → draws.below span s = some (n, s') → n < span

/-- From every state, chances are drawn for all probabilities, and numbers below all spans that leave
room for one. -/
structure InRange {σ : Type} (draws : Draws σ) : Prop extends Bounded draws where
  chance : ∀ {p : Binary64}, p.IsProbability → ∀ s, ∃ sure s', draws.chance p s = some (sure, s')
  below : ∀ {span : Nat}, 0 < span → ∀ s, ∃ n s', draws.below span s = some (n, s')

end Draws

theorem Generator.bounded_draws : Generator.draws.Bounded := ⟨fun hspan h => below_lt hspan h⟩

/-- The draws of the generator where the first word does for every number. -/
def Generator.firstDraws : Draws Generator where
  chance := chance?
  below span g := some (share span g.next.1, g.next.2)

theorem Generator.inRange_firstDraws : Generator.firstDraws.InRange where
  below_lt hspan h := by
    obtain ⟨rfl, -⟩ := Prod.mk.inj (Option.some.inj h)
    exact share_lt hspan _
  chance hp g := g.exists_chance hp
  below _ _ := ⟨_, _, rfl⟩

/-- The three numbers of a configuration are probabilities. -/
structure ScenarioConfig.IsProbable (config : ScenarioConfig) : Prop where
  duplicate : config.duplicate.IsProbability
  suspend : config.suspend.IsProbability
  blocked : config.blocked.IsProbability

theorem ScenarioConfig.isProbable_flapping (steps : Nat) (seed : Option UInt64) :
    ({ flapping steps with seed := seed } : ScenarioConfig).IsProbable where
  duplicate := by
    show (flapping 0).duplicate.IsProbability
    decide
  suspend := by
    show (flapping 0).suspend.IsProbability
    decide
  blocked := by
    show (flapping 0).blocked.IsProbability
    decide

namespace Scenario
variable {config : ScenarioConfig}

private theorem exists_bind {α β : Type} {o : Option α} {f : α → Option β} {a : α} (h : o = some a)
    (hf : ∃ b, f a = some b) : ∃ b, o >>= f = some b := by
  rw [h]
  exact hf

section Drawn
variable {σ : Type} {draws : Draws σ}

theorem exists_draw (hd : draws.InRange) (h : config.IsProbable) (s : σ) :
    ∃ next, draw draws config s = some next := by
  obtain ⟨duplicate, s₁, h₁⟩ := hd.chance h.duplicate s
  obtain ⟨suspend, s₂, h₂⟩ := hd.chance h.suspend s₁
  obtain ⟨blocked, s₃, h₃⟩ := hd.chance h.blocked s₂
  obtain ⟨capability, s₄, h₄⟩ := hd.chance Binary64.isProbability_half s₃
  obtain ⟨validated, s₅, h₅⟩ := hd.chance Binary64.isProbability_half s₄
  obtain ⟨n, s₆, h₆⟩ := hd.below (by decide : 0 < 221) s₄
  refine exists_bind h₁ ?_
  cases duplicate with
  | true => exact ⟨_, rfl⟩
  | false =>
    refine exists_bind h₂ ?_
    cases suspend with
    | true => exact ⟨_, rfl⟩
    | false =>
      refine exists_bind h₃ ?_
      cases blocked with
      | true => exact ⟨_, rfl⟩
      | false =>
        refine exists_bind h₄ ?_
        cases capability with
        | true =>
          refine exists_bind h₅ ?_
          exact ⟨_, rfl⟩
        | false =>
          refine exists_bind h₆ ?_
          exact ⟨_, rfl⟩

theorem exists_drawAll (hd : draws.InRange) (h : config.IsProbable) (steps : Nat) (s : σ) :
    ∃ turns, drawAll draws config steps s = some turns := by
  induction steps generalizing s with
  | zero => exact ⟨[], rfl⟩
  | succ steps ih =>
    obtain ⟨⟨turn, s'⟩, hturn⟩ := exists_draw hd h s
    obtain ⟨turns, hturns⟩ := ih s'
    refine ⟨turn :: turns, ?_⟩
    simp [drawAll, hturn, hturns]

end Drawn

/-- A step that can come out of a draw. -/
def Turn.IsDrawn : Turn → Prop
  | .duplicate | .suspension | .blocking => True
  | .toggle c => c = .validated ∨ c = .notMetered
  | .mtu value => 1280 ≤ value ∧ value ≤ 1500

theorem isDrawn_mtu {n : Nat} (h : n < 221) :
    (Turn.mtu (UInt32.ofNat (smallestMtu + n))).IsDrawn := by
  have hvalue : (UInt32.ofNat (smallestMtu + n)).toNat = 1280 + n := by
    rw [UInt32.toNat_ofNat_of_lt']
    · rfl
    · simp only [smallestMtu, UInt32.size]
      omega
  constructor
  · rw [UInt32.le_iff_toNat_le, hvalue]
    exact Nat.le_add_right ..
  · rw [UInt32.le_iff_toNat_le, hvalue]
    show 1280 + n ≤ 1500
    omega

section Drawn
variable {σ : Type} {draws : Draws σ}

theorem isDrawn_of_draw (hd : draws.Bounded) {s s' : σ} {turn : Turn}
    (h : draw draws config s = some (turn, s')) : turn.IsDrawn := by
  -- the two even chances are kept from being worked out
  unfold draw at h
  generalize Binary64.half = even at h
  obtain ⟨⟨duplicate, s₁⟩, -, h⟩ := Option.bind_eq_some_iff.mp h
  cases duplicate with
  | true =>
    cases h
    trivial
  | false =>
    obtain ⟨⟨suspend, s₂⟩, -, h⟩ := Option.bind_eq_some_iff.mp h
    cases suspend with
    | true =>
      cases h
      trivial
    | false =>
      obtain ⟨⟨blocked, s₃⟩, -, h⟩ := Option.bind_eq_some_iff.mp h
      cases blocked with
      | true =>
        cases h
        trivial
      | false =>
        obtain ⟨⟨capability, s₄⟩, -, h⟩ := Option.bind_eq_some_iff.mp h
        cases capability with
        | true =>
          obtain ⟨⟨validated, s₅⟩, -, h⟩ := Option.bind_eq_some_iff.mp h
          cases h
          cases validated
          · exact Or.inr rfl
          · exact Or.inl rfl
        | false =>
          obtain ⟨⟨n, s₅⟩, hn, h⟩ := Option.bind_eq_some_iff.mp h
          obtain ⟨rfl, -⟩ := Prod.mk.inj (Option.some.inj h)
          exact isDrawn_mtu (hd.below_lt (by decide) hn)

theorem isDrawn_of_drawAll (hd : draws.Bounded) {steps : Nat} {s : σ} {turns : List Turn}
    (h : drawAll draws config steps s = some turns) :
    turns.length = steps ∧ ∀ turn ∈ turns, turn.IsDrawn := by
  induction steps generalizing s turns with
  | zero =>
    cases h
    exact ⟨rfl, List.forall_mem_nil _⟩
  | succ steps ih =>
    obtain ⟨⟨turn, s'⟩, hturn, h⟩ := Option.bind_eq_some_iff.mp h
    obtain ⟨rest, hrest, h⟩ := Option.bind_eq_some_iff.mp h
    cases h
    obtain ⟨hlength, hdrawn⟩ := ih hrest
    exact ⟨congrArg (· + 1) hlength,
      List.forall_mem_cons.mpr ⟨isDrawn_of_draw hd hturn, hdrawn⟩⟩

/-- Every scenario that comes out has its number of steps, and each of them was drawn. -/
theorem turns_of_generateFrom (hd : draws.Bounded) {s : σ} {drawn : List NetworkEvent}
    (h : generateFrom? draws config s = some drawn) :
    ∃ turns, turns.length = config.steps ∧ (∀ turn ∈ turns, turn.IsDrawn) ∧
      drawn = events config turns := by
  obtain ⟨turns, hturns, rfl⟩ := Option.map_eq_some_iff.mp h
  obtain ⟨hlength, hdrawn⟩ := isDrawn_of_drawAll hd hturns
  exact ⟨turns, hlength, hdrawn, rfl⟩

/-- A scenario does come out of draws that are made in their ranges. -/
theorem exists_generateFrom (hd : draws.InRange) (h : config.IsProbable) (s : σ) :
    ∃ turns, turns.length = config.steps ∧ (∀ turn ∈ turns, turn.IsDrawn) ∧
      generateFrom? draws config s = some (events config turns) := by
  obtain ⟨turns, hturns⟩ := exists_drawAll hd h config.steps s
  obtain ⟨hlength, hdrawn⟩ := isDrawn_of_drawAll hd.toBounded hturns
  exact ⟨turns, hlength, hdrawn, by rw [generateFrom?, hturns, Option.map_some]⟩

end Drawn

end Scenario

end Rangelink
