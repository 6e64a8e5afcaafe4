import Mathlib
import PromptBroker.Decimal.Shortest

/-!
# The numbers that doubles stand for

A finite double stands for a rational number, its mantissa times a power of two.
`exactValue?` reads this number off the unpacked double. The search for a whole number,
which works on the bits of the word, finds the value whenever it is whole, and nothing
otherwise (`wholeValue?_eq_some`): nothing is rounded.
-/

namespace PromptBroker.Decimal

open Float.Model Float.Model.UnpackedFloat

/-- A mantissa times a power of two, with a sign. -/
def signedValue (s : Sign) (mantissa : Nat) (exponent : Int) : ℚ :=
  (s.apply mantissa : Int) * 2 ^ exponent

/-- The value of an unpacked number; infinities and NaN have none. -/
def unpackedValue? : UnpackedFloat → Option ℚ
  | .notANumber | .infinity _ => none
  | .zero _ => some 0
  | .finite s m e _ => some (signedValue s m e)

/-- The exact value of a double. -/
def exactValue? (x : Float) : Option ℚ := unpackedValue? x.toModel.unpack

/-! ### Bits -/

section Bits

variable (bits : UInt64)

theorem toNat_field :
    ((bits >>> 52) &&& 0x7FF).toNat = (@unpackExponent .binary64 bits.toBitVec).toNat := by
  have mask := Nat.and_two_pow_sub_one_eq_mod (bits.toNat >>> 52) 11
  simpa [unpackExponent_def] using mask

theorem toNat_fraction : (bits &&& 0xFFFFFFFFFFFFF).toNat =
    (@unpackMantissa .binary64 bits.toBitVec).toNat := by
  have mask := Nat.and_two_pow_sub_one_eq_mod bits.toNat 52
  simpa [unpackMantissa_def] using mask

theorem minus_iff : bits >>> 63 = 1 ↔
    Sign.ofBitVec (@unpackSign .binary64 bits.toBitVec) = .negative := by
  have top : bits.toNat >>> 63 < 2 := by
    have := bits.toNat_lt
    rw [Nat.shiftRight_eq_div_pow]
    omega
  have shifted : bits >>> 63 = 1 ↔ bits.toNat >>> 63 = 1 := by
    simp [← UInt64.toNat_inj]
  have first : (@unpackSign .binary64 bits.toBitVec).toNat = bits.toNat >>> 63 := by
    simp [unpackSign_def, Nat.mod_eq_of_lt top]
  rw [shifted, ← first, Sign.ofBitVec]
  split
  · next zero => simp [zero]
  · next one =>
    have : (@unpackSign .binary64 bits.toBitVec).toNat ≠ 0 := fun zero =>
      one (BitVec.eq_of_toNat_eq zero)
    simp
    omega

/-- A leading bit before others. -/
theorem toNat_one_append {w : Nat} (v : BitVec w) : (1#1 ++ v).toNat = v.toNat + 2 ^ w := by
  rw [BitVec.toNat_append, ← Nat.shiftLeft_add_eq_or_of_lt v.isLt, Nat.add_comm]
  simp [Nat.shiftLeft_eq]

end Bits

/-- The sign of a float. -/
def signOf (x : Float) : Sign := Sign.ofBitVec (@unpackSign .binary64 x.toBits.toBitVec)

theorem exactValue?_of_finite {x : Float} (finite : x.isFinite = true) :
    exactValue? x =
      some (signedValue (signOf x) (Binary.ofFloat x).mantissa (Binary.ofFloat x).exponent) := by
  have field := toNat_field x.toBits
  have fraction := toNat_fraction x.toBits
  have bits : x.toModel.toBits = x.toBits := rfl
  simp only [Float.isFinite, Float.Model.isFinite, exactValue?, Float.Model.unpack,
    UnpackedFloat.unpack, bits] at finite ⊢
  simp only [Binary.ofFloat, field, fraction]
  split at finite
  · split at finite <;> cases finite
  next notAll =>
  rw [if_neg notAll]
  by_cases exponent : @unpackExponent .binary64 x.toBits.toBitVec = 0#_
  · rw [if_pos exponent, exponent, if_pos (by simp)]
    split
    · next zero =>
      cases h : signOf x <;> simp [zero, unpackedValue?, signedValue, Sign.apply]
    · simp [unpackedValue?, signOf, Format.exponentBias]
  · have nonzero : (@unpackExponent .binary64 x.toBits.toBitVec).toNat ≠ 0 := fun zero =>
      exponent (BitVec.eq_of_toNat_eq zero)
    simp only [exponent, nonzero, if_false, unpackedValue?]
    rw [toNat_one_append, Nat.add_comm]
    rfl

/-- The number is whole exactly if there is such a natural number. -/
theorem Binary.toNat?_eq_some {b : Binary} {n : Nat} :
    b.toNat? = some n ↔ (b.mantissa : ℚ) * 2 ^ b.exponent = n := by
  have two : ∀ k : Nat, Nat.pow 2 k = 2 ^ k := fun _ => rfl
  simp only [Binary.toNat?, two]
  by_cases large : 0 ≤ b.exponent
  · obtain ⟨k, hk⟩ := Int.eq_ofNat_of_zero_le large
    rw [if_pos large, hk, Int.toNat_natCast, Option.some.injEq, zpow_natCast]
    exact_mod_cast Iff.rfl
  · obtain ⟨k, hk⟩ := Int.eq_negSucc_of_lt_zero (Int.not_le.1 large)
    rw [if_neg large, hk, Int.natAbs_negSucc, zpow_negSucc, ← div_eq_mul_inv,
      div_eq_iff (by positivity)]
    have cast : (b.mantissa : ℚ) = n * 2 ^ (k + 1) ↔ b.mantissa = n * 2 ^ (k + 1) := by
      exact_mod_cast Iff.rfl
    rw [cast]
    split
    · next whole =>
      rw [Option.some.injEq]
      exact Nat.div_eq_iff_eq_mul_left (by positivity) (Nat.dvd_of_mod_eq_zero whole)
    · next fraction =>
      refine iff_of_false nofun ?_
      rintro same
      exact fraction (by rw [same, Nat.mul_mod_left])

/-- A signed number is whole exactly if it is so without its sign. -/
theorem signedValue_eq {s : Sign} {m : Nat} {e n : Int} : signedValue s m e = n ↔
    ∃ k : Nat, (m : ℚ) * 2 ^ e = k ∧ s.apply k = n := by
  have nonneg : 0 ≤ (m : ℚ) * 2 ^ e := by positivity
  cases s with
  | positive =>
    simp only [signedValue, Sign.apply, Int.cast_natCast]
    constructor
    · intro same
      have : 0 ≤ n := by exact_mod_cast same ▸ nonneg
      obtain ⟨k, rfl⟩ := Int.eq_ofNat_of_zero_le this
      exact ⟨k, by simpa using same, rfl⟩
    · rintro ⟨k, same, rfl⟩
      simpa using same
  | negative =>
    simp only [signedValue, Sign.apply, Int.cast_neg, Int.cast_natCast, neg_mul]
    constructor
    · intro same
      have : 0 ≤ -n := by
        have : (0 : ℚ) ≤ -n := by rw [← same, neg_neg]; exact nonneg
        exact_mod_cast this
      obtain ⟨k, hk⟩ := Int.eq_ofNat_of_zero_le this
      obtain rfl : n = -k := by omega
      exact ⟨k, by simpa using same, rfl⟩
    · rintro ⟨k, same, rfl⟩
      rw [same]
      simp

theorem exactValue?_of_not_finite {x : Float} (h : x.isFinite = false) : exactValue? x = none := by
  change x.toModel.unpack.isFinite = false at h
  unfold exactValue?
  cases hu : x.toModel.unpack <;> rw [hu] at h <;> first | rfl | cases h

theorem wholeValue?_of_finite {x : Float} (finite : x.isFinite = true) :
    wholeValue? x = (Binary.ofFloat x).toNat?.map fun k : Nat => (signOf x).apply k := by
  have minus : x.toBits >>> 63 = 1 ↔ signOf x = .negative := minus_iff x.toBits
  cases parts : (Binary.ofFloat x).toNat? <;> cases sign : signOf x <;>
    simp [wholeValue?, finite, minus, parts, sign, Sign.apply]

/-- The search for a whole number finds the exact value of a double whenever that is whole. -/
theorem wholeValue?_eq_some {x : Float} {n : Int} :
    wholeValue? x = some n ↔ exactValue? x = some (n : ℚ) := by
  cases finite : x.isFinite with
  | false => simp [wholeValue?, finite, exactValue?_of_not_finite finite]
  | true =>
    rw [exactValue?_of_finite finite, Option.some.injEq, signedValue_eq,
      wholeValue?_of_finite finite, Option.map_eq_some_iff]
    simp only [Binary.toNat?_eq_some]

end PromptBroker.Decimal
