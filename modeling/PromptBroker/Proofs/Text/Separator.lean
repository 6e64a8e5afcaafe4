import Mathlib.Data.List.TakeWhile

/-!
# Texts up to a separator

Markup, addresses and objects are found by the next place where a certain character
stands. What is said about that place is the same for all of them: where it is
(`dropWhile_ne_append`), and that there is only one (`append_cons_inj`).
-/

namespace PromptBroker.Text

variable {x : Char} {cs front rest : List Char}

/-- The search for `x` runs to the end exactly if there is none. -/
theorem dropWhile_ne_eq_nil : cs.dropWhile (· != x) = [] ↔ x ∉ cs := by
  rw [List.dropWhile_eq_nil_iff]
  exact ⟨fun other mem => by simpa using other x mem,
    fun absent c mem => bne_iff_ne.2 fun same => absent (same ▸ mem)⟩

/-- The search stops at the first `x`. -/
theorem dropWhile_ne_append (plain : x ∉ front) :
    (front ++ x :: rest).dropWhile (· != x) = x :: rest := by
  rw [List.dropWhile_append, dropWhile_ne_eq_nil.2 plain, List.dropWhile_cons_of_neg (by simp)]
  rfl

/-- The first `x` is at one place. -/
theorem append_cons_inj {front' rest' : List Char} (plain : x ∉ front) (plain' : x ∉ front')
    (same : front ++ x :: rest = front' ++ x :: rest') : front = front' ∧ rest = rest' := by
  induction front generalizing front' with
  | nil =>
    cases front' with
    | nil => exact ⟨rfl, (List.cons.inj same).2⟩
    | cons d front' =>
      obtain ⟨rfl, -⟩ := List.cons.inj same
      exact absurd List.mem_cons_self plain'
  | cons c front ih =>
    cases front' with
    | nil =>
      obtain ⟨rfl, -⟩ := List.cons.inj same
      exact absurd List.mem_cons_self plain
    | cons d front' =>
      obtain ⟨rfl, tails⟩ := List.cons.inj same
      obtain ⟨rfl, rfl⟩ := ih (mt (List.mem_cons_of_mem c) plain)
        (mt (List.mem_cons_of_mem c) plain') tails
      exact ⟨rfl, rfl⟩

end PromptBroker.Text
