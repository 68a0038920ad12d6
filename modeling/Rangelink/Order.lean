/-! # Decidable strict orders

The keys of the sets and tables of this library are compared by a Boolean
strict order in which any two different keys are comparable.
-/
namespace Rangelink

/-- A decidable strict order in which incomparable keys are equal. -/
class StrictOrder (α : Type) where
  precedes : α → α → Bool
  precedes_irrefl : ∀ a, precedes a a = false
  precedes_trans : ∀ {a b c}, precedes a b = true → precedes b c = true → precedes a c = true
  eq_of_not_precedes : ∀ {a b}, precedes a b = false → precedes b a = false → a = b

namespace StrictOrder
variable {α : Type} [StrictOrder α]

theorem precedes_asymm {a b : α} (h : precedes a b = true) : precedes b a = false := by
  cases hb : precedes b a with
  | false => rfl
  | true => exact absurd (precedes_trans h hb) (by simp [precedes_irrefl])

theorem ne_of_precedes {a b : α} (h : precedes a b = true) : a ≠ b := by
  rintro rfl
  simp [precedes_irrefl] at h

/-- Order inherited along an injective map. -/
@[reducible]
def comap {β : Type} (f : β → α) (injective : ∀ a b, f a = f b → a = b) : StrictOrder β where
  precedes a b := precedes (f a) (f b)
  precedes_irrefl a := precedes_irrefl (f a)
  precedes_trans := precedes_trans
  eq_of_not_precedes hab hba := injective _ _ (eq_of_not_precedes hab hba)

end StrictOrder

instance : StrictOrder Nat where
  precedes a b := decide (a < b)
  precedes_irrefl a := by simp
  precedes_trans h₁ h₂ := by simp at *; omega
  eq_of_not_precedes h₁ h₂ := by simp at *; omega

instance : StrictOrder Int32 where
  precedes a b := decide (a.toInt < b.toInt)
  precedes_irrefl a := by simp
  precedes_trans h₁ h₂ := by simp only [decide_eq_true_eq] at *; omega
  eq_of_not_precedes h₁ h₂ := by
    simp only [decide_eq_false_iff_not] at *
    exact Int32.toInt_inj.mp (by omega)

/-- Lexicographic order of the code points; a proper initial segment comes first. -/
def codePointsPrecede : List Char → List Char → Bool
  | [], [] => false
  | [], _ :: _ => true
  | _ :: _, [] => false
  | a :: as, b :: bs => a.toNat < b.toNat || (a.toNat == b.toNat && codePointsPrecede as bs)

theorem codePointsPrecede_irrefl (as : List Char) : codePointsPrecede as as = false := by
  induction as with
  | nil => rfl
  | cons a as ih => simp [codePointsPrecede, ih]

theorem codePointsPrecede_trans {as bs cs : List Char} (h₁ : codePointsPrecede as bs = true)
    (h₂ : codePointsPrecede bs cs = true) : codePointsPrecede as cs = true := by
  induction as generalizing bs cs with
  | nil => cases bs <;> cases cs <;> simp_all [codePointsPrecede]
  | cons a as ih =>
    cases bs with
    | nil => simp [codePointsPrecede] at h₁
    | cons b bs =>
      cases cs with
      | nil => simp [codePointsPrecede] at h₂
      | cons c cs =>
        simp only [codePointsPrecede, Bool.or_eq_true, decide_eq_true_eq, Bool.and_eq_true,
          beq_iff_eq] at *
        rcases h₁ with h₁ | ⟨h₁, r₁⟩ <;> rcases h₂ with h₂ | ⟨h₂, r₂⟩
        · left; omega
        · left; omega
        · left; omega
        · right; exact ⟨by omega, ih r₁ r₂⟩

theorem codePointsPrecede_connected {as bs : List Char} (h₁ : codePointsPrecede as bs = false)
    (h₂ : codePointsPrecede bs as = false) : as = bs := by
  induction as generalizing bs with
  | nil => cases bs <;> simp_all [codePointsPrecede]
  | cons a as ih =>
    cases bs with
    | nil => simp [codePointsPrecede] at h₂
    | cons b bs =>
      simp only [codePointsPrecede, Bool.or_eq_false_iff, decide_eq_false_iff_not,
        Bool.and_eq_false_imp, beq_iff_eq] at h₁ h₂
      have he : a.toNat = b.toNat := by omega
      have hc : a = b := Char.toNat_inj.mp he
      rw [hc, ih (h₁.2 he) (h₂.2 he.symm)]

/-- Texts are compared code point by code point. -/
instance : StrictOrder String where
  precedes s t := codePointsPrecede s.toList t.toList
  precedes_irrefl s := codePointsPrecede_irrefl s.toList
  precedes_trans h₁ h₂ := codePointsPrecede_trans h₁ h₂
  eq_of_not_precedes h₁ h₂ := String.toList_injective (codePointsPrecede_connected h₁ h₂)

end Rangelink
