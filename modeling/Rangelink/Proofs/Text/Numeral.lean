import Mathlib.Algebra.Group.Int.Defs
import Rangelink.Text.Numeral

/-! # What is read as an integer

The grammar of signed decimal integers, with the value that each numeral spells.
Reading accepts exactly the numerals of this grammar whose value has a place
among the 32-bit integers, and reads that value.
-/
namespace Rangelink.Text
variable {c : Char} {cs ds : List Char} {v : Int}

/-- One or more decimal digits. -/
def AreDigits (ds : List Char) : Prop := ds ≠ [] ∧ ∀ c ∈ ds, c.isDigit = true

/-- A numeral is a run of digits, alone or after one sign, and spells an integer. -/
inductive Spells : List Char → Int → Prop
  | unsigned {ds : List Char} (h : AreDigits ds) : Spells ds (Nat.ofDigitChars 10 ds 0)
  | plus {ds : List Char} (h : AreDigits ds) : Spells ('+' :: ds) (Nat.ofDigitChars 10 ds 0)
  | minus {ds : List Char} (h : AreDigits ds) : Spells ('-' :: ds) (-Nat.ofDigitChars 10 ds 0)

section Digits

theorem digit?_eq (c : Char) : digit? c = if c.isDigit then some (c.toNat - '0'.toNat) else none := by
  simp only [digit?, Char.isDigit_iff_toNat]

theorem digitsFrom_eq_some_iff {acc n : Nat} :
    digitsFrom acc cs = some n ↔ (∀ c ∈ cs, c.isDigit = true) ∧ Nat.ofDigitChars 10 cs acc = n := by
  induction cs generalizing acc with
  | nil => simp [digitsFrom]
  | cons c rest ih =>
    by_cases hc : c.isDigit = true
    · simp [digitsFrom, digit?_eq, hc, ih, Nat.ofDigitChars_cons]
    · simp [digitsFrom, digit?_eq, hc]

theorem digits?_eq_some_iff {n : Nat} :
    digits? cs = some n ↔ AreDigits cs ∧ Nat.ofDigitChars 10 cs 0 = n := by
  cases cs with
  | nil => simp [digits?, AreDigits]
  | cons c rest =>
    unfold digits? AreDigits
    rw [digitsFrom_eq_some_iff]
    simp

theorem map_digits?_eq_some_iff {f : Nat → Int} :
    (digits? cs).map f = some v ↔ AreDigits cs ∧ f (Nat.ofDigitChars 10 cs 0) = v := by
  rw [Option.map_eq_some_iff]
  constructor
  · rintro ⟨n, hn, rfl⟩
    obtain ⟨hdigits, rfl⟩ := digits?_eq_some_iff.mp hn
    exact ⟨hdigits, rfl⟩
  · rintro ⟨hdigits, rfl⟩
    exact ⟨_, digits?_eq_some_iff.mpr ⟨hdigits, rfl⟩, rfl⟩

end Digits

section Signs

theorem AreDigits.head_isDigit (h : AreDigits (c :: cs)) : c.isDigit = true :=
  h.2 c List.mem_cons_self

theorem Spells.of_signed? (h : signed? cs = some v) : Spells cs v := by
  unfold signed? at h
  split at h
  · obtain ⟨hdigits, rfl⟩ := map_digits?_eq_some_iff.mp h
    exact .plus hdigits
  · obtain ⟨hdigits, rfl⟩ := map_digits?_eq_some_iff.mp h
    exact .minus hdigits
  · obtain ⟨hdigits, rfl⟩ := map_digits?_eq_some_iff.mp h
    exact .unsigned hdigits

theorem Spells.signed? (h : Spells cs v) : Text.signed? cs = some v := by
  cases h with
  | unsigned h =>
    unfold Text.signed?
    split
    · exact absurd h.head_isDigit (by decide)
    · exact absurd h.head_isDigit (by decide)
    · exact map_digits?_eq_some_iff.mpr ⟨h, rfl⟩
  | plus h => exact map_digits?_eq_some_iff.mpr ⟨h, rfl⟩
  | minus h => exact map_digits?_eq_some_iff.mpr ⟨h, rfl⟩

theorem signed?_eq_some_iff : signed? cs = some v ↔ Spells cs v :=
  ⟨Spells.of_signed?, Spells.signed?⟩

end Signs

section Words
variable {s : String} {n : Int32}

/-- An integer that 32 bits can hold. -/
def Fits (v : Int) : Prop := -2 ^ 31 ≤ v ∧ v ≤ 2 ^ 31 - 1

theorem fits_iff : Int32.minValue.toInt ≤ v ∧ v ≤ Int32.maxValue.toInt ↔ Fits v := Iff.rfl

theorem fits_toInt (n : Int32) : Fits n.toInt := by
  have hlow := n.le_toInt
  have hhigh := n.toInt_lt
  constructor <;> omega

theorem toInt_ofInt (h : Fits v) : (Int32.ofInt v).toInt = v := by
  obtain ⟨hlow, hhigh⟩ := h
  apply Int32.toInt_ofInt_of_le
  · exact hlow
  · omega

theorem int32?_eq_some_iff : int32? s = some n ↔ Spells s.toList n.toInt := by
  unfold int32?
  simp only [Option.bind_eq_some_iff, signed?_eq_some_iff]
  constructor
  · rintro ⟨v, hv, h⟩
    split at h
    · rename_i hfits
      rw [← Option.some.inj h, toInt_ofInt (fits_iff.mp hfits)]
      exact hv
    · cases h
  · intro h
    refine ⟨n.toInt, h, ?_⟩
    rw [if_pos (fits_iff.mpr (fits_toInt n)), Int32.ofInt_toInt]

theorem int32?_eq_none_iff : int32? s = none ↔ ¬ ∃ v, Spells s.toList v ∧ Fits v := by
  rw [Option.eq_none_iff_forall_ne_some]
  constructor
  · rintro h ⟨v, hv, hfits⟩
    apply h (Int32.ofInt v)
    rw [int32?_eq_some_iff, toInt_ofInt hfits]
    exact hv
  · intro h n hn
    exact h ⟨n.toInt, int32?_eq_some_iff.mp hn, fits_toInt n⟩

end Words

section Printing

theorem areDigits_toDigits (n : Nat) : AreDigits (Nat.toDigits 10 n) := by
  constructor
  · exact Nat.toDigits_ne_nil
  · intro c hc
    exact Nat.isDigit_of_mem_toDigits (by decide) (by decide) hc

theorem AreDigits.pad (h : AreDigits ds) (zeros : Nat) :
    AreDigits (List.replicate zeros '0' ++ ds) := by
  constructor
  · simp [h.1]
  · intro c hc
    rcases List.mem_append.mp hc with hc | hc
    · rw [List.eq_of_mem_replicate hc]
      rfl
    · exact h.2 c hc

/-- Leading zeros do not count. -/
theorem ofDigitChars_pad (zeros : Nat) (ds : List Char) :
    Nat.ofDigitChars 10 (List.replicate zeros '0' ++ ds) 0 = Nat.ofDigitChars 10 ds 0 := by
  rw [Nat.ofDigitChars_append, Nat.ofDigitChars_replicate_zero, Nat.mul_zero]

def signOf (v : Int) : List Char := if v < 0 then ['-'] else []

theorem spells_padded (v : Int) (zeros : Nat) :
    Spells (signOf v ++ (List.replicate zeros '0' ++ Nat.toDigits 10 v.natAbs)) v := by
  have hdigits := (areDigits_toDigits v.natAbs).pad zeros
  have hvalue : Nat.ofDigitChars 10 (List.replicate zeros '0' ++ Nat.toDigits 10 v.natAbs) 0 =
      v.natAbs := by
    rw [ofDigitChars_pad, Nat.ofDigitChars_ten_toDigits]
  unfold signOf
  split
  · have hspells := Spells.minus hdigits
    rw [hvalue] at hspells
    have hv : -(v.natAbs : Int) = v := by omega
    rwa [hv] at hspells
  · have hspells := Spells.unsigned hdigits
    rw [hvalue] at hspells
    have hv : (v.natAbs : Int) = v := by omega
    rwa [hv] at hspells

theorem toList_int32Text (n : Int32) :
    (int32Text n).toList = signOf n.toInt ++ Nat.toDigits 10 n.toInt.natAbs := by
  unfold int32Text signOf
  rw [Int.toString_eq_repr, Int.repr_eq_if]
  by_cases h : n.toInt < 0
  · have habs : (-n.toInt).toNat = n.toInt.natAbs := by omega
    rw [if_neg (by omega), if_pos h, String.toList_append, Nat.toList_repr, habs]
    rfl
  · have habs : n.toInt.toNat = n.toInt.natAbs := by omega
    rw [if_pos (by omega), if_neg h, Nat.toList_repr, habs, List.nil_append]

theorem spells_int32Text (n : Int32) : Spells (int32Text n).toList n.toInt := by
  rw [toList_int32Text]
  exact spells_padded n.toInt 0

end Printing

end Rangelink.Text
