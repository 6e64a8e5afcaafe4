import Mathlib

/-!
# The order of floats

Apart from NaN floats are in a line: the negative numbers from the infinity on, the zeros, the
positive numbers up to the infinity, and numbers of one sign by exponent and mantissa. `place`
says where on the line a float stands, so that comparing floats is comparing places
(`compare_eq`). A comparison with NaN is false.
-/

namespace PromptBroker.Decimal

open Float.Model Float.Model.UnpackedFloat

/-- Where a number stands among the others: its kind, and then how large it is. -/
def place : UnpackedFloat → ℤ ×ₗ ℤ ×ₗ ℤ
  | .infinity .negative => toLex (-2, toLex (0, 0))
  | .finite .negative m e _ => toLex (-1, toLex (-e, -m))
  | .zero _ => toLex (0, toLex (0, 0))
  | .finite .positive m e _ => toLex (1, toLex (e, m))
  | .infinity .positive => toLex (2, toLex (0, 0))
  | .notANumber => toLex (0, toLex (0, 0))

theorem compare_toLex {α β : Type} [LinearOrder α] [LinearOrder β] (a b : α) (x y : β) :
    compare (toLex (a, x)) (toLex (b, y)) = (compare a b).then (compare x y) := by
  rw [Prod.Lex.compare_def]
  rfl

theorem compare_neg_neg (a b : ℤ) : compare (-a) (-b) = (compare a b).swap := by
  rcases lt_trichotomy a b with h | h | h
  · rw [compare_lt_iff_lt.2 h]
    exact compare_gt_iff_gt.2 (neg_lt_neg h)
  · rw [compare_eq_iff_eq.2 h]
    exact compare_eq_iff_eq.2 (congrArg _ h)
  · rw [compare_gt_iff_gt.2 h]
    exact compare_lt_iff_lt.2 (neg_lt_neg h)

theorem compare_natCast (m n : ℕ) : compare (m : ℤ) (n : ℤ) = compare m n := by
  rcases lt_trichotomy m n with h | h | h
  · rw [compare_lt_iff_lt.2 h]
    exact compare_lt_iff_lt.2 (Int.ofNat_lt.2 h)
  · rw [compare_eq_iff_eq.2 h]
    exact compare_eq_iff_eq.2 (congrArg _ h)
  · rw [compare_gt_iff_gt.2 h]
    exact compare_gt_iff_gt.2 (Int.ofNat_lt.2 h)

/-- Numbers are compared by their places. -/
theorem compare_eq {u v : UnpackedFloat} (hu : u ≠ .notANumber) (hv : v ≠ .notANumber) :
    u.compare v = some (compare (place u) (place v)) := by
  cases u with
  | notANumber => exact absurd rfl hu
  | infinity s =>
    cases v with
    | notANumber => exact absurd rfl hv
    | infinity s' | zero s' | finite s' =>
      cases s <;> cases s' <;> simp only [place, compare_toLex] <;> rfl
  | zero s =>
    cases v with
    | notANumber => exact absurd rfl hv
    | infinity s' | zero s' | finite s' => cases s' <;> simp only [place, compare_toLex] <;> rfl
  | finite s m e pos =>
    cases v with
    | notANumber => exact absurd rfl hv
    | infinity s' | zero s' =>
      cases s <;> cases s' <;> simp only [place, compare_toLex] <;> rfl
    | finite s' m' e' pos' =>
      cases s with
      | negative =>
        cases s' with
        | negative =>
          simp only [place, compare_toLex, compare_neg_neg, compare_natCast]
          exact congrArg some (Ordering.swap_then (compare e e') (compare m m'))
        | positive => simp only [place, compare_toLex]; rfl
      | positive =>
        cases s' with
        | negative => simp only [place, compare_toLex]; rfl
        | positive => simp only [place, compare_toLex, compare_natCast]; rfl

variable {x y z : Float}

theorem isNaN_eq_false_iff : x.isNaN = false ↔ x.toModel.unpack ≠ .notANumber := by
  change x.toModel.unpack.isNaN = false ↔ _
  cases x.toModel.unpack with
  | notANumber => exact ⟨nofun, fun h => absurd rfl h⟩
  | _ => exact ⟨nofun, fun _ => rfl⟩

/-- Only numbers are compared. -/
theorem compare_eq_some_iff {u v : UnpackedFloat} {o : Ordering} :
    u.compare v = some o ↔
      u ≠ .notANumber ∧ v ≠ .notANumber ∧ compare (place u) (place v) = o := by
  by_cases hu : u = .notANumber
  · subst hu
    exact ⟨nofun, fun h => absurd rfl h.1⟩
  by_cases hv : v = .notANumber
  · subst hv
    have none : u.compare .notANumber = none := by cases u <;> rfl
    rw [none]
    exact ⟨nofun, fun h => absurd rfl h.2.1⟩
  · rw [compare_eq hu hv, Option.some.injEq]
    exact ⟨fun h => ⟨hu, hv, h⟩, fun h => h.2.2⟩

theorem le_iff : x ≤ y ↔
    x.isNaN = false ∧ y.isNaN = false ∧ place x.toModel.unpack ≤ place y.toModel.unpack := by
  change decide (x.toModel.unpack.le y.toModel.unpack = true) = true ↔ _
  rw [decide_eq_true_iff, isNaN_eq_false_iff, isNaN_eq_false_iff, UnpackedFloat.le,
    Option.any_eq_true]
  simp only [compare_eq_some_iff]
  constructor
  · rintro ⟨_, ⟨hu, hv, rfl⟩, low⟩
    exact ⟨hu, hv, compare_le_iff_le.1 (Ordering.isLE_iff_ne_gt.1 low)⟩
  · rintro ⟨hu, hv, low⟩
    exact ⟨_, ⟨hu, hv, rfl⟩, Ordering.isLE_iff_ne_gt.2 (compare_le_iff_le.2 low)⟩

theorem lt_iff : x < y ↔
    x.isNaN = false ∧ y.isNaN = false ∧ place x.toModel.unpack < place y.toModel.unpack := by
  change decide (x.toModel.unpack.lt y.toModel.unpack = true) = true ↔ _
  rw [decide_eq_true_iff, isNaN_eq_false_iff, isNaN_eq_false_iff, UnpackedFloat.lt, beq_iff_eq,
    compare_eq_some_iff, compare_lt_iff_lt]

theorem le_refl_of_number (h : x.isNaN = false) : x ≤ x := le_iff.2 ⟨h, h, le_refl _⟩

theorem float_le_trans (h : x ≤ y) (h' : y ≤ z) : x ≤ z := by
  obtain ⟨nx, -, low⟩ := le_iff.1 h
  obtain ⟨-, nz, high⟩ := le_iff.1 h'
  exact le_iff.2 ⟨nx, nz, low.trans high⟩

theorem le_of_float_lt (h : x < y) : x ≤ y := by
  obtain ⟨nx, ny, less⟩ := lt_iff.1 h
  exact le_iff.2 ⟨nx, ny, less.le⟩

/-- Of two numbers one is at most the other. -/
theorem le_of_not_float_lt (nx : x.isNaN = false) (ny : y.isNaN = false) (h : ¬x < y) : y ≤ x :=
  le_iff.2 ⟨ny, nx, not_lt.1 fun less => h (lt_iff.2 ⟨nx, ny, less⟩)⟩

end PromptBroker.Decimal
