import PromptBroker.Purpose.Basic
import PromptBroker.Usage

/-!
# Accounts of usage

For every user and purpose the ledger counts the requests answered and adds up
the units they consumed. Nothing else changes an account but the operator, who
may set a counter.
-/

namespace PromptBroker

/-- The account of a user for a purpose. -/
structure UsageRecord where
  requests : UInt64 := 0
  /-- The sum of the totals recorded. -/
  consumed : Float := 0
  deriving DecidableEq

/-- The accounts of all users. -/
structure Ledger where
  entry : Int → Purpose → UsageRecord := fun _ _ => {}

namespace Ledger

/-- Replaces an account. -/
def setEntry (l : Ledger) (user : Int) (p : Purpose) (a : UsageRecord) : Ledger :=
  ⟨fun u q => if u = user ∧ q = p then a else l.entry u q⟩

/-- Sets the number of requests. -/
def setRequests (l : Ledger) (user : Int) (p : Purpose) (requests : UInt64) : Ledger :=
  l.setEntry user p { l.entry user p with requests := requests }

/-- Adds one request and what it consumed. -/
def record (l : Ledger) (user : Int) (p : Purpose) (u : Usage) : Ledger :=
  let a := l.entry user p
  l.setEntry user p ⟨a.requests + 1, a.consumed + u.total⟩

@[simp] theorem entry_setEntry_self (l : Ledger) (user : Int) (p : Purpose) (a : UsageRecord) :
    (l.setEntry user p a).entry user p = a := by
  simp [setEntry]

@[simp] theorem entry_setEntry_of_ne (l : Ledger) {user u : Int} {p q : Purpose} (a : UsageRecord)
    (h : ¬(u = user ∧ q = p)) : (l.setEntry user p a).entry u q = l.entry u q := by
  simp [setEntry, h]

end Ledger

end PromptBroker
