import Rangelink.Proofs.Request.History
import Rangelink.Proofs.Text.Numeral

/-! # Specifiers written as text

A text that spells an integer of 32 bits names a subscription, the empty text names
nothing, and every other text names itself.
-/
namespace Rangelink.RequestBuilder
open Text (Spells Fits AreDigits)
variable {s t : String} {sub : SubscriptionId}

theorem readSpecifier_cases (s : String) :
    (s = "" ∧ readSpecifier s = none) ∨
      (s ≠ "" ∧ ∃ n, Text.int32? s = some n ∧ readSpecifier s = some (.telephony ⟨n⟩)) ∨
      (s ≠ "" ∧ Text.int32? s = none ∧ readSpecifier s = some (.text s)) := by
  unfold readSpecifier
  by_cases hs : s = ""
  · simp [hs]
  · cases hn : Text.int32? s <;> simp [hs]

theorem readSpecifier_eq_none_iff : readSpecifier s = none ↔ s = "" := by
  rcases readSpecifier_cases s with ⟨hs, hr⟩ | ⟨hs, n, -, hr⟩ | ⟨hs, -, hr⟩ <;> rw [hr] <;> simp [hs]

theorem readSpecifier_eq_telephony_iff :
    readSpecifier s = some (.telephony sub) ↔ Spells s.toList sub.number.toInt := by
  rw [← Text.int32?_eq_some_iff]
  rcases readSpecifier_cases s with ⟨hs, hr⟩ | ⟨-, n, hn, hr⟩ | ⟨-, hn, hr⟩
  · have hnone : Text.int32? s = none := by
      rw [hs]
      rfl
    simp [hr, hnone]
  · obtain ⟨number⟩ := sub
    simp [hr, hn]
  · simp [hr, hn]

theorem readSpecifier_eq_text_iff :
    readSpecifier s = some (.text t) ↔ t = s ∧ s ≠ "" ∧ ¬ ∃ v, Spells s.toList v ∧ Fits v := by
  rw [← Text.int32?_eq_none_iff]
  rcases readSpecifier_cases s with ⟨hs, hr⟩ | ⟨-, n, hn, hr⟩ | ⟨hs, hn, hr⟩
  · rw [hr]
    simp [hs]
  · simp [hr, hn]
  · simp [hr, hn, hs, eq_comm]

/-- A text sets the specifier and nothing else: none if it is empty, a subscription if it spells an
integer of 32 bits, and otherwise the text itself, never all networks. The decimal text of each such
integer names its subscription, whatever zeros follow the sign. -/
theorem text_specifies (b : RequestBuilder) :
    (∀ s, let written := b.advance (.specifyText s)
      let specifier := written.capabilities.specifier
      written = { b with capabilities := { b.capabilities with specifier } } ∧
        (specifier = none ↔ s = "") ∧
        (∀ sub, specifier = some (.telephony sub) ↔ Spells s.toList sub.number.toInt) ∧
        (∀ t, specifier = some (.text t) ↔
          t = s ∧ s ≠ "" ∧ ¬ ∃ v, Spells s.toList v ∧ Fits v) ∧
        specifier ≠ some .matchAll) ∧
      ∀ n : Int32,
        (b.advance (.specifyText (Text.int32Text n))).capabilities.specifier =
            some (.telephony ⟨n⟩) ∧
          ∃ sign digits, (Text.int32Text n).toList = sign ++ digits ∧
            sign = (if n.toInt < 0 then ['-'] else []) ∧ AreDigits digits ∧
            ∀ zeros,
              let padded := String.ofList (sign ++ (List.replicate zeros '0' ++ digits))
              (b.advance (.specifyText padded)).capabilities.specifier =
                some (.telephony ⟨n⟩) := by
  constructor
  · intro s written specifier
    refine ⟨rfl, readSpecifier_eq_none_iff, ?_, ?_, readSpecifier_ne_matchAll s⟩
    · intro sub
      exact readSpecifier_eq_telephony_iff
    · intro t
      exact readSpecifier_eq_text_iff
  · intro n
    refine ⟨readSpecifier_eq_telephony_iff.mpr (Text.spells_int32Text n), Text.signOf n.toInt,
      Nat.toDigits 10 n.toInt.natAbs, Text.toList_int32Text n, rfl, Text.areDigits_toDigits _, ?_⟩
    intro zeros padded
    apply readSpecifier_eq_telephony_iff.mpr
    rw [String.toList_ofList]
    exact Text.spells_padded n.toInt zeros

-- The range has one more integer below zero than above, and a sign alone is no number.
example :
    readSpecifier "-002147483648" = some (.telephony ⟨-2147483648⟩) ∧
      readSpecifier "+2147483648" = some (.text "+2147483648") ∧
      readSpecifier "-" = some (.text "-") ∧ readSpecifier "\u0663" = some (.text "\u0663") := by decide

end Rangelink.RequestBuilder
