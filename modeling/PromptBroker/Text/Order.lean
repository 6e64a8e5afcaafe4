/-!
# The order of texts

Texts are ordered by their code points, the first difference deciding; a text
comes before every longer one that starts with it. It is also the order of the
UTF-8 bytes. The order is strict, and of two different texts one comes before the
other (`precedes_irrefl`, `precedes_trans`, `precedes_or_eq_or_precedes`).
-/

namespace PromptBroker.Text

/-- Whether one list of characters comes before another. -/
def precedes : List Char → List Char → Bool
  | _, [] => false
  | [], _ :: _ => true
  | a :: as, b :: bs =>
    if a.toNat < b.toNat then true
    else if a.toNat = b.toNat then precedes as bs
    else false

/-- Whether one text comes before another. -/
def isBefore (a b : String) : Bool := precedes a.toList b.toList

/-- Characters with one code point are the same. -/
theorem toNat_injective {a b : Char} (h : a.toNat = b.toNat) : a = b :=
  Char.ext (UInt32.toNat.inj h)

@[simp] theorem precedes_irrefl (as : List Char) : precedes as as = false := by
  induction as with
  | nil => rfl
  | cons a as ih => simp [precedes, ih]

theorem precedes_trans {as bs cs : List Char} (hab : precedes as bs = true)
    (hbc : precedes bs cs = true) : precedes as cs = true := by
  induction as generalizing bs cs with
  | nil =>
    cases cs with
    | nil => simp [precedes] at hbc
    | cons c cs => rfl
  | cons a as ih =>
    cases bs with
    | nil => simp [precedes] at hab
    | cons b bs =>
      cases cs with
      | nil => simp [precedes] at hbc
      | cons c cs =>
        simp only [precedes] at hab hbc ⊢
        by_cases hac : a.toNat < c.toNat
        · simp [hac]
        · rw [if_neg hac]
          have hEq : a.toNat = b.toNat ∧ b.toNat = c.toNat := by
            by_cases h1 : a.toNat < b.toNat
            · by_cases h2 : b.toNat < c.toNat
              · exact absurd (Nat.lt_trans h1 h2) hac
              · by_cases h3 : b.toNat = c.toNat
                · exact absurd (h3 ▸ h1) hac
                · simp [h2, h3] at hbc
            · by_cases h3 : a.toNat = b.toNat
              · by_cases h2 : b.toNat < c.toNat
                · exact absurd (h3 ▸ h2) hac
                · by_cases h4 : b.toNat = c.toNat
                  · exact ⟨h3, h4⟩
                  · simp [h2, h4] at hbc
              · simp [h1, h3] at hab
          rw [if_pos (hEq.1.trans hEq.2)]
          rw [if_neg (by omega), if_pos hEq.1] at hab
          rw [if_neg (by omega), if_pos hEq.2] at hbc
          exact ih hab hbc

theorem precedes_or_eq_or_precedes (as bs : List Char) :
    precedes as bs = true ∨ as = bs ∨ precedes bs as = true := by
  induction as generalizing bs with
  | nil =>
    cases bs with
    | nil => exact Or.inr (Or.inl rfl)
    | cons b bs => exact Or.inl rfl
  | cons a as ih =>
    cases bs with
    | nil => exact Or.inr (Or.inr rfl)
    | cons b bs =>
      simp only [precedes]
      rcases Nat.lt_trichotomy a.toNat b.toNat with h | h | h
      · exact Or.inl (if_pos h)
      · obtain rfl := toNat_injective h
        simpa using ih bs
      · exact Or.inr (Or.inr (if_pos h))

/-- Of two different texts the one that is not before the other is behind it. -/
theorem isBefore_of_not_isBefore {a b : String} (h : ¬isBefore a b = true) (hne : a ≠ b) :
    isBefore b a = true := by
  rcases precedes_or_eq_or_precedes a.toList b.toList with hab | hab | hba
  · exact absurd hab h
  · exact absurd (String.toList_inj.1 hab) hne
  · exact hba

end PromptBroker.Text
