import PromptBroker.Decimal.Single
import PromptBroker.Proofs.Decimal.Values

/-!
# Nothing is lost in widening

A number of single precision that is aligned and packed as a double comes out of the
double as it went in (`unpack_widen`). So the double has the value of the number, and
an infinity or NaN does not turn into a number.
-/

namespace PromptBroker.Decimal

open Float.Model Float.Model.UnpackedFloat

variable {sign : Sign} {m : Nat} {e : Int} {positive : 0 < m} {u : UnpackedFloat}

/-! ### Normal doubles -/

/-- A mantissa with its leading bit in place is this bit and the ones behind it. -/
theorem one_append_ofNat (leading : m.log2 = 52) (positive : 0 < m) :
    (1#1 ++ BitVec.ofNat 52 m).toNat = m := by
  have low : 2 ^ 52 ≤ m := leading ▸ Nat.log2_self_le positive.ne'
  have high : m < 2 ^ 53 := (Nat.log2_lt positive.ne').1 (by omega)
  rw [toNat_one_append, BitVec.toNat_ofNat]
  omega

theorem pack_normal (leading : m.log2 = 52) (high : e ≤ 971) :
    UnpackedFloat.pack .binary64 (.finite sign m e positive) =
      packComponents .binary64 sign (BitVec.ofNat 11 (e + 1075).toNat) (BitVec.ofNat 52 m) := by
  have field : (e + (1023 : Nat) + (52 : Nat)).toNat = (e + 1075).toNat := by omega
  have inside : ¬2 ^ 11 ≤ (e + 1075).toNat + 1 := by omega
  rw [← field] at inside ⊢
  simp only [UnpackedFloat.pack, leading]
  exact (if_neg inside).trans (if_pos rfl)

/-- A normal double is unpacked as it was packed. -/
theorem unpack_pack_normal (leading : m.log2 = 52) (low : -1074 ≤ e) (high : e ≤ 971) :
    UnpackedFloat.unpack .binary64 (UnpackedFloat.pack .binary64 (.finite sign m e positive)) =
      .finite sign m e positive := by
  have field : (BitVec.ofNat 11 (e + 1075).toNat).toNat = e + 1075 := by
    rw [BitVec.toNat_ofNat]
    omega
  have finite : BitVec.ofNat 11 (e + 1075).toNat ≠ -1#11 := by
    intro all
    have top : (-1#11 : BitVec 11).toNat = 2047 := rfl
    rw [all, top] at field
    omega
  have normal : BitVec.ofNat 11 (e + 1075).toNat ≠ 0#11 := by
    intro none
    have bottom : (0#11 : BitVec 11).toNat = 0 := rfl
    rw [none, bottom] at field
    omega
  rw [pack_normal leading high]
  simp only [UnpackedFloat.unpack, unpackMantissa_packComponents, unpackExponent_packComponents,
    unpackSign_packComponents, Sign.ofBitVec_toBitVec]
  rw [if_neg finite, if_neg normal]
  rw [UnpackedFloat.finite.injEq]
  exact ⟨rfl, one_append_ofNat leading positive, by rw [field]; exact Int.add_sub_cancel e 1075⟩

/-! ### Aligned numbers -/

/-- The mantissas and exponents of single precision. -/
theorem bounds_of_unpack {b : BitVec 32}
    (h : UnpackedFloat.unpack .binary32 b = .finite sign m e positive) :
    m < 2 ^ 24 ∧ -149 ≤ e ∧ e ≤ 104 := by
  have fraction : (@unpackMantissa .binary32 b).toNat < 2 ^ 23 := BitVec.isLt _
  have field : (@unpackExponent .binary32 b).toNat < 2 ^ 8 := BitVec.isLt _
  have offset : (Format.binary32.exponentBias : Int) + Format.binary32.mantissaBitsWithoutImplicit =
      150 := rfl
  simp only [UnpackedFloat.unpack, offset] at h
  split at h
  · split at h <;> cases h
  next notAll =>
  have finite : (@unpackExponent .binary32 b).toNat ≠ 255 := fun all =>
    notAll (BitVec.eq_of_toNat_eq all)
  split at h
  · next zero =>
    have bottom : (@unpackExponent .binary32 b).toNat = 0 := congrArg BitVec.toNat zero
    split at h
    · cases h
    · obtain ⟨-, rfl, rfl⟩ := UnpackedFloat.finite.inj h
      omega
  · next nonzero =>
    have normal : (@unpackExponent .binary32 b).toNat ≠ 0 := fun zero =>
      nonzero (BitVec.eq_of_toNat_eq zero)
    obtain ⟨-, rfl, rfl⟩ := UnpackedFloat.finite.inj h
    have mantissa : (1#1 ++ @unpackMantissa .binary32 b).toNat =
        (@unpackMantissa .binary32 b).toNat + 2 ^ 23 := toNat_one_append _
    omega

theorem log2_mul_two_pow (positive : 0 < m) (k : Nat) : (m * 2 ^ k).log2 = m.log2 + k := by
  have ne : m ≠ 0 := positive.ne'
  refine (Nat.log2_eq_iff (Nat.mul_ne_zero ne (Nat.two_pow_pos k).ne')).2 ⟨?_, ?_⟩
  · rw [Nat.pow_add]
    exact Nat.mul_le_mul_right _ (Nat.log2_self_le ne)
  · rw [Nat.add_right_comm, Nat.pow_add]
    exact Nat.mul_lt_mul_of_pos_right Nat.lt_log2_self (Nat.two_pow_pos k)

/-- An aligned number of single precision is unpacked from a double as it was packed. -/
theorem unpack_pack_align (b : BitVec 32) :
    UnpackedFloat.unpack .binary64
        (UnpackedFloat.pack .binary64 (align (UnpackedFloat.unpack .binary32 b))) =
      align (UnpackedFloat.unpack .binary32 b) := by
  cases h : UnpackedFloat.unpack .binary32 b with
  | notANumber => rfl
  | infinity sign | zero sign => cases sign <;> rfl
  | finite sign m e positive =>
    obtain ⟨small, low, high⟩ := bounds_of_unpack h
    have places : m.log2 < 24 := (Nat.log2_lt positive.ne').2 small
    have leading : (m * 2 ^ (52 - m.log2)).log2 = 52 := by
      rw [log2_mul_two_pow positive]
      omega
    exact unpack_pack_normal leading (by omega) (by omega)

/-- The double is the number, with the leading bit of its mantissa in place. -/
theorem unpack_widen (x : Float32) : (widen x).toModel.unpack = align x.toModel.unpack := by
  have again := unpack_pack_align x.toBits.toBitVec
  exact (congrArg (fun u => UnpackedFloat.unpack .binary64 (UnpackedFloat.pack .binary64 u))
    again).trans again

/-! ### What the double stands for -/

/-- The exact value of a number of single precision. -/
def singleValue? (x : Float32) : Option ℚ := unpackedValue? x.toModel.unpack

theorem signedValue_mul_two_pow (sign : Sign) (m : Nat) (e : Int) (k : Nat) :
    signedValue sign (m * 2 ^ k) (e - k) = signedValue sign m e := by
  have shift : (2 : ℚ) ^ e = 2 ^ k * 2 ^ (e - k) := by
    rw [← zpow_natCast, ← zpow_add₀ (by norm_num)]
    congr 1
    omega
  cases sign <;> simp [signedValue, Sign.apply, shift] <;> ring

theorem unpackedValue?_align (u : UnpackedFloat) : unpackedValue? (align u) = unpackedValue? u := by
  cases u with
  | finite sign m e positive => exact congrArg some (signedValue_mul_two_pow sign m e _)
  | _ => rfl

/-- Nothing is rounded, and nothing that is no number gets a value. -/
theorem exactValue?_widen (x : Float32) : exactValue? (widen x) = singleValue? x := by
  rw [exactValue?, unpack_widen, unpackedValue?_align, singleValue?]

theorem isFinite_widen (x : Float32) : (widen x).isFinite = x.isFinite := by
  have aligned (u : UnpackedFloat) : (align u).isFinite = u.isFinite := by cases u <;> rfl
  exact (congrArg UnpackedFloat.isFinite (unpack_widen x)).trans (aligned _)

end PromptBroker.Decimal
