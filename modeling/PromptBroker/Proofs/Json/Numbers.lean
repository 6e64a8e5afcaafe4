import PromptBroker.Json.Printer
import PromptBroker.Proofs.Json.Grammar

/-!
# The characters of numbers

Whatever the layout, the text of a number consists of digits, signs, a point and the
mark of an exponent. So a number that is put into a text can open no string, object or
tag there.
-/

namespace PromptBroker

variable {c : Char} {ds : List Char}

namespace Decimal

open Json (isNumberChar)

theorem isNumberChar_of_mem_digitChars {n : Nat} (h : c ∈ digitChars n) : isNumberChar c := by
  have digit : c.isDigit = true := Nat.isDigit_of_mem_toDigits (by decide) (by decide) h
  simp [isNumberChar, digit]

theorem isNumberChar_of_mem_zeros {n : Nat} (h : c ∈ List.replicate n '0') : isNumberChar c := by
  rw [List.eq_of_mem_replicate h]
  decide

theorem isNumberChar_of_mem_intChars {n : Int} (h : c ∈ intChars n) : isNumberChar c := by
  unfold intChars at h
  split at h
  · rcases List.mem_cons.1 h with rfl | h
    · decide
    · exact isNumberChar_of_mem_digitChars h
  · exact isNumberChar_of_mem_digitChars h

/-- The fraction that a whole number may keep. -/
theorem isNumberChar_of_mem_kept {keeps : Bool}
    (h : c ∈ (if keeps then ['.', '0'] else [] : List Char)) : isNumberChar c := by
  cases keeps with
  | false => cases h
  | true =>
    simp only [if_true, List.mem_cons, List.not_mem_nil, or_false] at h
    rcases h with rfl | rfl <;> decide

theorem isNumberChar_of_mem_placePoint (digits : ∀ d ∈ ds, isNumberChar d) {whole : Int}
    {keeps : Bool} (h : c ∈ placePoint ds whole keeps) : isNumberChar c := by
  unfold placePoint at h
  split at h
  · rcases List.mem_cons.1 h with rfl | h
    · decide
    rcases List.mem_cons.1 h with rfl | h
    · decide
    rcases List.mem_append.1 h with h | h
    · exact isNumberChar_of_mem_zeros h
    · exact digits c h
  · dsimp only at h
    split at h
    · rcases List.mem_append.1 h with h | h
      · rcases List.mem_append.1 h with h | h
        · exact digits c h
        · exact isNumberChar_of_mem_zeros h
      · exact isNumberChar_of_mem_kept h
    · rcases List.mem_append.1 h with h | h
      · exact digits c (List.mem_of_mem_take h)
      rcases List.mem_cons.1 h with rfl | h
      · decide
      · exact digits c (List.mem_of_mem_drop h)

theorem isNumberChar_of_mem_scientificChars (digits : ∀ d ∈ ds, isNumberChar d) {exponent : Int}
    (h : c ∈ scientificChars ds exponent) : isNumberChar c := by
  unfold scientificChars at h
  rcases List.mem_append.1 h with h | h
  · split at h
    · next d e rest =>
      rcases List.mem_cons.1 h with rfl | h
      · exact digits _ List.mem_cons_self
      rcases List.mem_cons.1 h with rfl | h
      · decide
      · exact digits c (List.mem_cons_of_mem _ h)
    · exact digits c h
  rcases List.mem_cons.1 h with rfl | h
  · decide
  rcases List.mem_cons.1 h with rfl | h
  · split <;> decide
  · exact isNumberChar_of_mem_digitChars h

theorem Style.isNumberChar_of_mem_layout {style : Style} {d : Scientific}
    (h : c ∈ style.layout d) : isNumberChar c := by
  have digits : ∀ e ∈ digitChars d.digits, isNumberChar e := fun _ he =>
    isNumberChar_of_mem_digitChars he
  unfold layout at h
  split at h
  · rcases List.mem_cons.1 h with rfl | h
    · decide
    · exact isNumberChar_of_mem_kept h
  · dsimp only at h
    split at h
    · exact isNumberChar_of_mem_placePoint digits h
    · exact isNumberChar_of_mem_scientificChars digits h

theorem Style.isNumberChar_of_mem_finite {style : Style} {x : Float} (h : c ∈ style.finite x) :
    isNumberChar c := by
  unfold finite at h
  dsimp only at h
  split at h
  · rcases List.mem_cons.1 h with rfl | h
    · decide
    · exact isNumberChar_of_mem_layout h
  · exact isNumberChar_of_mem_layout h

end Decimal

/-- Every character of a number is one that numbers are written with. -/
theorem Json.Number.isNumberChar_of_mem_chars {n : Json.Number} (h : c ∈ n.chars) :
    Json.isNumberChar c := by
  cases n with
  | whole n => exact Decimal.isNumberChar_of_mem_intChars h
  | real x finite => exact Decimal.Style.isNumberChar_of_mem_finite h

end PromptBroker
