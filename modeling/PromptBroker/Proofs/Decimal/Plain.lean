import PromptBroker.Proofs.Decimal.Literals
import PromptBroker.Proofs.Json.Numbers
import PromptBroker.Text.Blank

/-!
# Plain notation is made of literals

Every double in plain notation is a float literal, an infinity and NaN too, and it can
stand in a list: no comma is in it, and no blank that trimming could take away
(`plain_listable`).
-/

namespace PromptBroker.Decimal

open Json (IsDigits isNumberChar)

variable {x : Float} {c : Char} {ds : List Char}

/-! ### Literals -/

theorem isDigits_digitChars (n : Nat) : IsDigits (digitChars n) :=
  ⟨Nat.toDigits_ne_nil, fun _ h => Nat.isDigit_of_mem_toDigits (by decide) (by decide) h⟩

theorem isDigit_of_mem_zeros {n : Nat} (h : c ∈ List.replicate n '0') : c.isDigit = true := by
  rw [List.eq_of_mem_replicate h]
  rfl

/-- Digits with a point among them are a literal. -/
theorem unsigned_placePoint (digits : IsDigits ds) (whole : Int) :
    ∃ m, Unsigned (placePoint ds whole false) m := by
  obtain ⟨ne, all⟩ := digits
  unfold placePoint
  split
  · have fraction : IsDigits (['0'] ++ (List.replicate (-whole).toNat '0' ++ ds)) := by
      refine ⟨by simp, List.forall_mem_append.2 ⟨List.forall_mem_singleton.2 rfl, ?_⟩⟩
      exact List.forall_mem_append.2 ⟨fun _ => isDigit_of_mem_zeros, all⟩
    have pointed := Unsigned.pointed fraction .absent
    rw [List.append_nil] at pointed
    exact ⟨_, pointed⟩
  · dsimp only
    split
    · have padded : IsDigits (ds ++ List.replicate (whole.toNat - ds.length) '0') :=
        ⟨by simp [ne], List.forall_mem_append.2 ⟨all, fun _ => isDigit_of_mem_zeros⟩⟩
      exact ⟨_, .whole padded .absent⟩
    · have whole : IsDigits (ds.take whole.toNat ++ ds.drop whole.toNat) := by
        rw [List.take_append_drop]
        exact ⟨ne, all⟩
      have pointed := Unsigned.pointed whole .absent
      rw [List.append_nil] at pointed
      exact ⟨_, pointed⟩

theorem unsigned_layout (d : Scientific) : ∃ m, Unsigned (Style.plain.layout d) m := by
  unfold Style.layout
  split
  · exact ⟨_, .whole (⟨by simp, List.forall_mem_singleton.2 rfl⟩ : IsDigits ['0']) .absent⟩
  · exact unsigned_placePoint (isDigits_digitChars _) _

theorem literal_finite (x : Float) :
    ∃ negative m, FloatLiteral (Style.plain.finite x) negative m := by
  obtain ⟨m, h⟩ := unsigned_layout ((Binary.ofFloat x).shortest Style.plain.tie)
  unfold Style.finite
  dsimp only
  split
  · exact ⟨true, m, .minus h⟩
  · exact ⟨false, m, .unsigned h⟩

theorem plain_cases (x : Float) : plain x ∈ ["NaN", "-inf", "inf"] ∨
    plain x = String.ofList (Style.plain.finite x) := by
  unfold plain
  split
  · simp
  · split
    · split <;> simp
    · exact .inr rfl

/-- Every double in plain notation is a float literal. -/
theorem literal_plain (x : Float) : ∃ negative m, FloatLiteral (plain x).toList negative m := by
  rcases plain_cases x with word | finite
  · simp only [List.mem_cons, List.not_mem_nil, or_false] at word
    rcases word with word | word | word <;> rw [word]
    · exact ⟨false, .nan, .unsigned (.nan rfl)⟩
    · exact ⟨true, .infinite, .minus (.infinite (.inl rfl))⟩
    · exact ⟨false, .infinite, .unsigned (.infinite (.inl rfl))⟩
  · rw [finite, String.toList_ofList]
    exact literal_finite x

/-! ### Characters -/

/-- A character that neither ends an entry of a list nor is trimmed from it. -/
def IsListable (c : Char) : Prop := c ≠ ',' ∧ Text.isBlank c = false

instance : DecidablePred IsListable := fun c =>
  inferInstanceAs (Decidable (c ≠ ',' ∧ Text.isBlank c = false))

theorem listable_of_isNumberChar (h : isNumberChar c) : IsListable c := by
  rcases Bool.or_eq_true_iff.1 h with digit | sign
  · have range : 48 ≤ c.toNat ∧ c.toNat ≤ 57 := by
      simpa [Char.isDigit, UInt32.le_iff_toNat_le] using digit
    refine ⟨?_, ?_⟩
    · rintro rfl
      cases digit
    · simp [Text.isBlank]
      omega
  · simp only [List.contains_eq_mem, List.mem_cons, List.not_mem_nil, or_false,
      decide_eq_true_eq] at sign
    rcases sign with rfl | rfl | rfl | rfl | rfl <;> decide

theorem plain_listable (x : Float) : ∀ c ∈ (plain x).toList, IsListable c := by
  rcases plain_cases x with word | finite
  · have listable : ∀ word ∈ ["NaN", "-inf", "inf"],
        word.toList.all (fun c => decide (IsListable c)) = true := by
      decide +kernel
    exact fun c member => of_decide_eq_true (List.all_eq_true.1 (listable _ word) c member)
  · rw [finite, String.toList_ofList]
    exact fun c member => listable_of_isNumberChar (Style.isNumberChar_of_mem_finite member)

end PromptBroker.Decimal
