import Mathlib
import PromptBroker.Broker.Basic
import PromptBroker.Proofs.Decimal.Values

/-!
# Instances configured alike

A connector is kept as long as its instance is configured alike. Texts, flags and
options are compared as they are, temperatures as numbers, so that a zero is the same
with either sign. Beyond that instances that are configured alike are equal
(`alike_of_isSameAs`), and the broker takes any instance that passes its own check as
configured like itself (`isSameAs_of_alike`).

Temperatures are floats. Numbers of the same value have the same bits unless they are
zeros: sign, exponent and mantissa can be read off the value (`Reads`).
-/

namespace PromptBroker

/-! ### Floats -/

namespace Temperature

open Float.Model Float.Model.UnpackedFloat

/-- Bits put together again from their parts. -/
theorem packComponents_unpack (a : BitVec Format.binary64.numBits) :
    packComponents .binary64 (Sign.ofBitVec (unpackSign a)) (unpackExponent a)
      (unpackMantissa a) = a := by
  have sign (v : BitVec 1) : (Sign.ofBitVec v).toBitVec = v := by
    revert v
    decide
  simp only [packComponents, sign, unpackSign, unpackExponent, unpackMantissa, BitVec.extractLsb]
  ext i hi
  grind

/-- What bits stand for, by their parts. -/
inductive Reads (a : BitVec Format.binary64.numBits) : UnpackedFloat → Prop
  | notANumber : Reads a .notANumber
  | infinity {s} (sign : Sign.ofBitVec (unpackSign a) = s) (exponent : unpackExponent a = -1#_)
      (mantissa : unpackMantissa a = 0#_) : Reads a (.infinity s)
  | zero {s} (sign : Sign.ofBitVec (unpackSign a) = s) (exponent : unpackExponent a = 0#_)
      (mantissa : unpackMantissa a = 0#_) : Reads a (.zero s)
  | subnormal {s m e pos} (sign : Sign.ofBitVec (unpackSign a) = s)
      (exponent : unpackExponent a = 0#_) (mantissa : (unpackMantissa a).toNat = m) :
      Reads a (.finite s m e pos)
  /-- The leading bit of the mantissa is left out. -/
  | normal {s m e pos} (sign : Sign.ofBitVec (unpackSign a) = s)
      (exponent : ((unpackExponent a).toNat : Int) = e + 1075)
      (mantissa : (unpackMantissa a).toNat + 2 ^ 52 = m) : Reads a (.finite s m e pos)

theorem reads_unpack (x : Float) : Reads x.toModel.toBits.toBitVec x.toModel.unpack := by
  unfold Float.Model.unpack UnpackedFloat.unpack
  dsimp only
  split
  · next exponent =>
    split
    · next mantissa => exact .infinity rfl exponent mantissa
    · exact .notANumber
  · split
    · next exponent =>
      split
      · next mantissa => exact .zero rfl exponent mantissa
      · exact .subnormal rfl exponent rfl
    · exact .normal rfl (Int.sub_add_cancel _ 1075).symm (Decimal.toNat_one_append _).symm

/-- Bits that stand for the same number are the same. -/
theorem Reads.bits_eq {a b : BitVec Format.binary64.numBits} {u : UnpackedFloat} (ha : Reads a u)
    (hb : Reads b u) (number : u ≠ .notANumber) : a = b := by
  suffices Sign.ofBitVec (unpackSign a) = Sign.ofBitVec (unpackSign b) ∧
      unpackExponent a = unpackExponent b ∧ unpackMantissa a = unpackMantissa b by
    rw [← packComponents_unpack a, ← packComponents_unpack b, this.1, this.2.1, this.2.2]
  -- Only a mantissa whose leading bit is left out reaches the next power of two.
  have la : (unpackMantissa a).toNat < 2 ^ 52 := (unpackMantissa a).isLt
  have lb : (unpackMantissa b).toNat < 2 ^ 52 := (unpackMantissa b).isLt
  cases ha with
  | notANumber => exact absurd rfl number
  | infinity sign e m =>
    cases hb with
    | infinity sign' e' m' => exact ⟨sign.trans sign'.symm, e.trans e'.symm, m.trans m'.symm⟩
  | zero sign e m =>
    cases hb with
    | zero sign' e' m' => exact ⟨sign.trans sign'.symm, e.trans e'.symm, m.trans m'.symm⟩
  | subnormal sign e m =>
    cases hb with
    | subnormal sign' e' m' =>
      exact ⟨sign.trans sign'.symm, e.trans e'.symm, BitVec.eq_of_toNat_eq (m.trans m'.symm)⟩
    | normal sign' e' m' => omega
  | normal sign e m =>
    cases hb with
    | subnormal sign' e' m' => omega
    | normal sign' e' m' =>
      exact ⟨sign.trans sign'.symm, BitVec.eq_of_toNat_eq (by omega),
        BitVec.eq_of_toNat_eq (by omega)⟩

/-- Numbers of the same value are the same, unless they are zeros. -/
theorem eq_or_zero_of_compare {u v : UnpackedFloat} (h : u.compare v = some .eq) :
    u ≠ .notANumber ∧ (u = v ∨ ∃ s s', u = .zero s ∧ v = .zero s') := by
  cases u with
  | notANumber => cases v <;> cases h
  | infinity s =>
    refine ⟨nofun, .inl ?_⟩
    cases v with
    | infinity s' => cases s <;> cases s' <;> first | rfl | cases h
    | _ => cases s <;> cases h
  | zero s =>
    refine ⟨nofun, .inr ?_⟩
    cases v with
    | zero s' => exact ⟨s, s', rfl, rfl⟩
    | infinity s' | finite s' => cases s' <;> cases h
    | notANumber => cases h
  | finite s m e pos =>
    refine ⟨nofun, .inl ?_⟩
    cases v with
    | finite s' m' e' pos' =>
      obtain ⟨rfl, order⟩ : s = s' ∧ (compare e e').then (compare m m') = .eq := by
        cases s with
        | negative =>
          cases s' with
          | negative => exact ⟨rfl, Ordering.swap_eq_eq.1 (Option.some.inj h)⟩
          | positive => cases h
        | positive =>
          cases s' with
          | negative => cases h
          | positive => exact ⟨rfl, Option.some.inj h⟩
      obtain ⟨he, hm⟩ := Ordering.then_eq_eq.1 order
      cases Std.LawfulEqOrd.eq_of_compare he
      cases Std.LawfulEqOrd.eq_of_compare hm
      rfl
    | infinity s' => cases s <;> cases s' <;> cases h
    | zero s' | notANumber => cases s <;> cases h

theorem compare_self {u : UnpackedFloat} (number : u ≠ .notANumber) : u.compare u = some .eq := by
  cases u with
  | notANumber => exact absurd rfl number
  | infinity s => cases s <;> rfl
  | zero s => rfl
  | finite s m e pos => cases s <;> simp [UnpackedFloat.compare]

variable {x y : Float}

theorem unpack_zero : (0 : Float).toModel.unpack = .zero .positive := rfl

theorem unpack_one : (1 : Float).toModel.unpack = .finite .positive (2 ^ 52) (-52) (by decide) :=
  rfl

theorem isZero_iff : (x == 0) = true ↔ ∃ s, x.toModel.unpack = .zero s := by
  change (x.toModel.unpack.compare (0 : Float).toModel.unpack == some .eq) = true ↔ _
  rw [unpack_zero, beq_iff_eq]
  constructor
  · intro h
    obtain ⟨-, same | ⟨s, -, zero, -⟩⟩ := eq_or_zero_of_compare h
    · exact ⟨_, same⟩
    · exact ⟨s, zero⟩
  · rintro ⟨s, zero⟩
    rw [zero]
    rfl

/-- Floats of the same value are the same, unless they are zeros. -/
theorem eq_or_isZero_of_beq (h : (x == y) = true) :
    x = y ∨ (x == 0) = true ∧ (y == 0) = true := by
  obtain ⟨number, same | ⟨s, s', zx, zy⟩⟩ := eq_or_zero_of_compare (beq_iff_eq.1 h)
  · have hy := reads_unpack y
    have hx := reads_unpack x
    rw [same] at hx number
    have bits := hx.bits_eq hy number
    obtain ⟨⟨⟨x⟩, vx⟩⟩ := x
    obtain ⟨⟨⟨y⟩, vy⟩⟩ := y
    cases bits
    exact .inl rfl
  · exact .inr ⟨isZero_iff.2 ⟨s, zx⟩, isZero_iff.2 ⟨s', zy⟩⟩

theorem beq_of_isZero (hx : (x == 0) = true) (hy : (y == 0) = true) : (x == y) = true := by
  obtain ⟨s, zx⟩ := isZero_iff.1 hx
  obtain ⟨s', zy⟩ := isZero_iff.1 hy
  change (x.toModel.unpack.compare y.toModel.unpack == some .eq) = true
  rw [zx, zy]
  rfl

theorem inRange_of_isZero (h : (x == 0) = true) : Instance.temperatureInRange x = true := by
  obtain ⟨s, zero⟩ := isZero_iff.1 h
  have low : (0 : Float) ≤ x := by
    change decide (((0 : Float).toModel.unpack.le x.toModel.unpack) = true) = true
    rw [zero, unpack_zero]
    rfl
  have high : x ≤ (1 : Float) := by
    change decide ((x.toModel.unpack.le (1 : Float).toModel.unpack) = true) = true
    rw [zero, unpack_one]
    rfl
  rw [Instance.temperatureInRange, decide_eq_true low, decide_eq_true high]
  rfl

/-- A temperature in its range is a number. -/
theorem beq_self_of_inRange (h : Instance.temperatureInRange x = true) : (x == x) = true := by
  have number : x.toModel.unpack ≠ .notANumber := by
    intro none
    have low : (0 : Float) ≤ x := of_decide_eq_true (Bool.and_eq_true_iff.1 h).1
    change decide (((0 : Float).toModel.unpack.le x.toModel.unpack) = true) = true at low
    rw [none, unpack_zero] at low
    cases low
  change (x.toModel.unpack.compare x.toModel.unpack == some .eq) = true
  rw [compare_self number]
  rfl

end Temperature

/-! ### Instances -/

namespace Instance

/-- Instances that are the same, a zero being the same with either sign. -/
inductive Alike : Instance → Instance → Prop
  | refl (i : Instance) : Alike i i
  | zero {i : Instance} {x y : Float} (temperature : i.temperature = some x)
      (hx : (x == 0) = true) (hy : (y == 0) = true) : Alike i { i with temperature := some y }

variable {a b : Instance}

theorem alike_of_isSameAs (h : a.isSameAs b = true) : a.Alike b := by
  obtain ⟨_, _, _, _, _, t, _, _, _, _⟩ := a
  obtain ⟨_, _, _, _, _, t', _, _, _, _⟩ := b
  simp only [isSameAs, Bool.and_eq_true, beq_iff_eq] at h
  obtain ⟨⟨⟨⟨⟨⟨⟨⟨⟨rfl, rfl⟩, rfl⟩, rfl⟩, rfl⟩, temperature⟩, rfl⟩, rfl⟩, rfl⟩, rfl⟩ := h
  cases t with
  | none =>
    cases t' with
    | none => exact .refl _
    | some y => cases temperature
  | some x =>
    cases t' with
    | none => cases temperature
    | some y =>
      rcases Temperature.eq_or_isZero_of_beq temperature with rfl | ⟨hx, hy⟩
      · exact .refl _
      · exact .zero rfl hx hy

theorem inRange_of_validate {i : Instance} {t : Float} (valid : i.validate = .ok ())
    (temperature : i.temperature = some t) : temperatureInRange t = true := by
  have sound : i.defect? = none := by
    unfold validate at valid
    split at valid
    · cases valid
    · next sound => exact sound
  unfold defect? at sound
  split at sound
  · cases sound
  split at sound
  · cases sound
  obtain ⟨-, sound⟩ := Option.or_eq_none_iff.1 sound
  obtain ⟨-, sound⟩ := Option.or_eq_none_iff.1 sound
  rw [temperature] at sound
  dsimp only at sound
  split at sound
  · assumption
  · cases sound

/-- An instance that passes its own check is configured like itself. -/
theorem isSameAs_of_alike (valid : a.validate = .ok ()) (alike : a.Alike b) :
    a.isSameAs b = true := by
  have temperature : (a.temperature == b.temperature) = true := by
    cases alike with
    | refl =>
      cases given : a.temperature with
      | none => rfl
      | some t => exact Temperature.beq_self_of_inRange (inRange_of_validate valid given)
    | zero given hx hy =>
      rw [given]
      exact Temperature.beq_of_isZero hx hy
  cases alike <;> simp [isSameAs, temperature]

theorem Alike.validate_eq (h : a.Alike b) : b.validate = a.validate := by
  cases h with
  | refl => rfl
  | @zero x y temperature hx hy =>
    have same : ({ a with temperature := some y } : Instance).defect? = a.defect? := by
      simp only [defect?, activeAzure?, key?, temperature, Temperature.inRange_of_isZero hx,
        Temperature.inRange_of_isZero hy, if_true]
      rfl
    rw [validate, validate, same]

theorem Alike.provider_eq (h : a.Alike b) : a.provider = b.provider := by
  cases h <;> rfl

end Instance

end PromptBroker
