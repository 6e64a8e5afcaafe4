import PromptBroker.Proofs.Json.Numbers
import PromptBroker.Proofs.Text.Separator
import PromptBroker.Store.Files

/-!
# Addresses of files

All files are in one flat map, under addresses put together from what the caller says.
Still no two of them meet: numbers are written without a slash, so that the slashes
behind the base address tell where user, context and item end, and whatever comes after
the third of them is the file name (`address_eq_iff`).
-/

namespace PromptBroker

namespace Decimal

theorem digitChars_injective : Function.Injective digitChars := fun m n same => by
  have read (k : Nat) : Nat.ofDigitChars 10 (digitChars k) 0 = k := Nat.ofDigitChars_ten_toDigits
  rw [← read m, same, read n]

theorem not_mem_digitChars {c : Char} (h : c.isDigit = false) (n : Nat) : c ∉ digitChars n :=
  fun mem => by
    have digit : c.isDigit = true := Nat.isDigit_of_mem_toDigits (by decide) (by decide) mem
    cases h.symm.trans digit

/-- A number can be read off its text. -/
theorem intChars_injective : Function.Injective intChars := by
  have natAbs {m n : Int} (same : digitChars m.natAbs = digitChars n.natAbs) :
      m.natAbs = n.natAbs := digitChars_injective same
  have unsigned (m n : Nat) : '-' :: digitChars m ≠ digitChars n := fun same =>
    not_mem_digitChars (c := '-') rfl n (same ▸ List.mem_cons_self)
  intro m n same
  unfold intChars at same
  split at same <;> split at same
  · have := natAbs (List.cons.inj same).2
    omega
  · exact absurd same (unsigned _ _)
  · exact absurd same.symm (unsigned _ _)
  · have := natAbs same
    omega

theorem slash_not_mem_intChars (n : Int) : '/' ∉ intChars n := fun slash =>
  absurd (isNumberChar_of_mem_intChars slash) (by decide)

end Decimal

namespace Files

open Decimal

variable {f f' : Files} {o o' : Owner} {filename filename' address other : String}
  {bytes : ByteArray}

theorem intChars_append_inj {m n : Int} {rest rest' : List Char}
    (same : intChars m ++ '/' :: rest = intChars n ++ '/' :: rest') : m = n ∧ rest = rest' := by
  obtain ⟨number, rest⟩ :=
    Text.append_cons_inj (slash_not_mem_intChars m) (slash_not_mem_intChars n) same
  exact ⟨intChars_injective number, rest⟩

/-- Owner and file name can be read off an address. -/
theorem address_eq_iff :
    f.address o filename = f.address o' filename' ↔ o = o' ∧ filename = filename' := by
  refine ⟨fun same => ?_, fun ⟨owner, name⟩ => owner ▸ name ▸ rfl⟩
  have chars := String.ofList_injective same
  simp only [List.append_assoc, List.cons_append] at chars
  have parts := (List.cons.inj (List.append_cancel_left chars)).2
  obtain ⟨user, parts⟩ := intChars_append_inj parts
  obtain ⟨context, parts⟩ := intChars_append_inj parts
  obtain ⟨item, name⟩ := intChars_append_inj parts
  cases o
  cases o'
  cases user
  cases context
  cases item
  exact ⟨rfl, String.toList_injective name⟩

/-! ### Storing -/

theorem put_eq_ok : f.put o filename bytes = .ok (address, f') ↔
    isFilename filename = true ∧ f.address o filename = address ∧
      { f with entries := f.entries.insert address bytes } = f' := by
  unfold put
  cases isFilename filename with
  | false => simp
  | true =>
    simp only [if_true, Except.ok.injEq, Prod.mk.injEq, true_and]
    constructor
    · rintro ⟨rfl, rfl⟩
      exact ⟨rfl, rfl⟩
    · rintro ⟨rfl, rfl⟩
      exact ⟨rfl, rfl⟩

theorem base_of_put (h : f.put o filename bytes = .ok (address, f')) : f'.base = f.base := by
  obtain ⟨-, -, rfl⟩ := put_eq_ok.1 h
  rfl

/-- What is stored is found under its address. -/
theorem get?_of_put (h : f.put o filename bytes = .ok (address, f')) :
    f'.get? address = some bytes := by
  obtain ⟨-, -, rfl⟩ := put_eq_ok.1 h
  exact Keyed.get?_insert_self ..

/-- Nothing changes under any other address. -/
theorem get?_of_put_of_ne (h : f.put o filename bytes = .ok (address, f'))
    (ne : other ≠ address) : f'.get? other = f.get? other := by
  obtain ⟨-, -, rfl⟩ := put_eq_ok.1 h
  exact Keyed.get?_insert_of_ne ne ..

theorem address_of_base (same : f'.base = f.base) :
    f'.address o filename = f.address o filename := by
  unfold address
  rw [same]

end Files

end PromptBroker
