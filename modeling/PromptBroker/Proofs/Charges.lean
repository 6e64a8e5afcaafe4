import PromptBroker.Caller
import PromptBroker.Store.Ledger

/-!
# Charges

A charge puts one answered request on an account. A ledger is *charged* if every
charge is made while its account is below the limit that applies. Then no counter
wraps around: an account has grown by the number of its charges, has consumed what
they add up to, and has not been raised above a limit under which it was raised.
-/

namespace PromptBroker

/-- What an answered request puts on an account. The role says which limit applies. -/
structure Charge where
  user : Int
  purpose : Purpose
  role : Role
  usage : Usage

/-- Whether the charge goes to the account of a user for a purpose. -/
def Charge.concerns (c : Charge) (user : Int) (p : Purpose) : Bool :=
  c.user = user ∧ c.purpose = p

namespace Ledger

/-- Makes a charge. -/
def put (l : Ledger) (c : Charge) : Ledger := l.record c.user c.purpose c.usage

/-- The charges are made one after the other, each below the limit that applies to it. -/
inductive Charged (limit : Purpose → Role → UInt64) : Ledger → List Charge → Ledger → Prop
  | nil {l} : Charged limit l [] l
  | cons {l c cs l'} (below : (l.entry c.user c.purpose).requests < limit c.purpose c.role)
      (rest : Charged limit (l.put c) cs l') : Charged limit l (c :: cs) l'

variable {limit : Purpose → Role → UInt64} {l l' l'' : Ledger} {c : Charge} {cs ds : List Charge}
  {user : Int} {p : Purpose}

/-! ### One charge -/

theorem entry_put_of_concerns (h : c.concerns user p) :
    (l.put c).entry user p =
      ⟨(l.entry user p).requests + 1, (l.entry user p).consumed + c.usage.total⟩ := by
  obtain ⟨rfl, rfl⟩ := of_decide_eq_true h
  exact entry_setEntry_self l c.user c.purpose _

theorem entry_put_of_not_concerns (h : ¬c.concerns user p) :
    (l.put c).entry user p = l.entry user p := by
  refine entry_setEntry_of_ne l _ fun ⟨hu, hp⟩ => h ?_
  exact decide_eq_true ⟨hu.symm, hp.symm⟩

/-- Below a limit there is room for one more. -/
theorem toNat_add_one_of_lt {n m : UInt64} (h : n < m) : (n + 1).toNat = n.toNat + 1 := by
  have hlt := UInt64.lt_iff_toNat_lt.1 h
  have hm := m.toNat_lt
  rw [UInt64.toNat_add]
  exact Nat.mod_eq_of_lt (by simp; omega)

/-! ### Many charges -/

theorem Charged.append (h : Charged limit l cs l') (h' : Charged limit l' ds l'') :
    Charged limit l (cs ++ ds) l'' := by
  induction h with
  | nil => exact h'
  | cons below _ ih => exact .cons below (ih h')

/-- Without a charge nothing changes. -/
theorem Charged.eq_of_nil (h : Charged limit l [] l') : l' = l := by
  cases h
  rfl

/-- Every charge is counted, and no counter wraps around. -/
theorem Charged.toNat_requests (h : Charged limit l cs l') (user : Int) (p : Purpose) :
    (l'.entry user p).requests.toNat =
      (l.entry user p).requests.toNat + (cs.filter (·.concerns user p)).length := by
  induction h with
  | nil => rfl
  | @cons l c cs l' below _ ih =>
    rw [ih]
    by_cases hc : c.concerns user p
    · have room : ((l.put c).entry user p).requests.toNat =
          (l.entry user p).requests.toNat + 1 := by
        rw [entry_put_of_concerns hc]
        obtain ⟨rfl, rfl⟩ := of_decide_eq_true hc
        exact toNat_add_one_of_lt below
      rw [room, List.filter_cons, if_pos hc, List.length_cons]
      omega
    · rw [entry_put_of_not_concerns hc, List.filter_cons, if_neg hc]

/-- What an account has consumed is what its charges add up to, in the order in which they were
made. -/
theorem Charged.consumed_eq (h : Charged limit l cs l') (user : Int) (p : Purpose) :
    (l'.entry user p).consumed =
      (cs.filter (·.concerns user p)).foldl (fun sum c => sum + c.usage.total)
        (l.entry user p).consumed := by
  induction h with
  | nil => rfl
  | @cons l c cs l' _ _ ih =>
    rw [ih]
    by_cases hc : c.concerns user p
    · rw [entry_put_of_concerns hc, List.filter_cons, if_pos hc, List.foldl_cons]
    · rw [entry_put_of_not_concerns hc, List.filter_cons, if_neg hc]

theorem Charged.entry_eq (h : Charged limit l cs l') (none : ∀ c ∈ cs, ¬c.concerns user p) :
    l'.entry user p = l.entry user p := by
  induction h with
  | nil => rfl
  | cons _ _ ih =>
    rw [ih fun c hc => none c (List.mem_cons_of_mem _ hc),
      entry_put_of_not_concerns (none _ List.mem_cons_self)]

/-- An account is as it was, or within a limit under which it was charged. -/
theorem Charged.requests_le (h : Charged limit l cs l') (user : Int) (p : Purpose) :
    l'.entry user p = l.entry user p ∨
      ∃ c ∈ cs, c.concerns user p ∧ (l'.entry user p).requests ≤ limit p c.role := by
  induction h with
  | nil => exact .inl rfl
  | @cons l c cs l' below _ ih =>
    rcases ih with same | ⟨d, hd, concerns, le⟩
    · by_cases hc : c.concerns user p
      · refine .inr ⟨c, List.mem_cons_self, hc, ?_⟩
        rw [same, entry_put_of_concerns hc]
        obtain ⟨rfl, rfl⟩ := of_decide_eq_true hc
        rw [UInt64.le_iff_toNat_le, toNat_add_one_of_lt below]
        exact UInt64.lt_iff_toNat_lt.1 below
      · exact .inl (same.trans (entry_put_of_not_concerns hc))
    · exact .inr ⟨d, List.mem_cons_of_mem c hd, concerns, le⟩

/-- The first charge of an account finds it below the limit. -/
theorem Charged.lt_limit (h : Charged limit l cs l')
    (first : cs.filter (·.concerns user p) = c :: ds) :
    (l.entry user p).requests < limit p c.role := by
  induction h with
  | nil => cases first
  | @cons l d cs l' below _ ih =>
    by_cases hd : d.concerns user p
    · rw [List.filter_cons, if_pos hd] at first
      cases first
      obtain ⟨rfl, rfl⟩ := of_decide_eq_true hd
      exact below
    · rw [List.filter_cons, if_neg hd] at first
      rw [← entry_put_of_not_concerns hd]
      exact ih first

end Ledger

end PromptBroker
