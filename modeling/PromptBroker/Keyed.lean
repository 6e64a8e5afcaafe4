import PromptBroker.Text.Order

/-!
# Entries kept in key order

Objects, option sets and most stores are finite maps from text to values whose
order can be seen from outside: they are listed by key, in the order of code
points. They are kept as lists of entries with strictly ascending keys. `insert`
keeps them so (`ascending_insert`), and every other operation only reads or leaves
out entries.
-/

namespace PromptBroker

/-- Entries with strictly ascending keys. -/
abbrev Keyed (α : Type) := List (String × α)

namespace Keyed

variable {α β : Type}

/-- The keys ascend strictly, so that no key occurs twice. -/
def Ascending (entries : Keyed α) : Prop :=
  entries.Pairwise fun a b => Text.isBefore a.1 b.1

/-- The value under a key. -/
def get? (key : String) (entries : Keyed α) : Option α :=
  entries.lookup key

/-- Whether there is an entry under the key. -/
def contains (key : String) (entries : Keyed α) : Bool :=
  (entries.get? key).isSome

/-- Puts a value under a key, in place of the one that was there. -/
def insert (key : String) (value : α) : Keyed α → Keyed α
  | [] => [(key, value)]
  | (k, v) :: rest =>
    if Text.isBefore key k then (key, value) :: (k, v) :: rest
    else if key = k then (key, value) :: rest
    else (k, v) :: insert key value rest

/-- Removes the entry under a key. -/
def erase (key : String) (entries : Keyed α) : Keyed α :=
  entries.filter fun e => e.1 != key

/-- Entries in any order, of which the last under each key counts. -/
def ofList (entries : List (String × α)) : Keyed α :=
  entries.foldl (fun acc e => acc.insert e.1 e.2) []

/-- Changes the values and keeps the keys. -/
def mapValues (f : α → β) (entries : Keyed α) : Keyed β :=
  entries.map fun e => (e.1, f e.2)

/-! ### Lemmas -/

theorem mem_insert {key : String} {value : α} {e : String × α} {entries : Keyed α}
    (h : e ∈ insert key value entries) : e = (key, value) ∨ e ∈ entries := by
  induction entries with
  | nil => exact Or.inl (List.mem_singleton.1 h)
  | cons d rest ih =>
    obtain ⟨k, v⟩ := d
    simp only [insert] at h
    split at h
    · exact List.mem_cons.1 h
    · split at h
      · rcases List.mem_cons.1 h with h | h
        · exact Or.inl h
        · exact Or.inr (List.mem_cons_of_mem _ h)
      · rcases List.mem_cons.1 h with h | h
        · exact Or.inr (h ▸ List.mem_cons_self)
        · exact (ih h).imp_right (List.mem_cons_of_mem _)

theorem ascending_insert {entries : Keyed α} (h : Ascending entries) (key : String) (value : α) :
    Ascending (insert key value entries) := by
  induction entries with
  | nil => simp [insert, Ascending]
  | cons e rest ih =>
    obtain ⟨k, v⟩ := e
    obtain ⟨hk, hrest⟩ := List.pairwise_cons.1 h
    simp only [insert]
    split
    · next hlt =>
      refine List.pairwise_cons.2 ⟨fun e he => ?_, h⟩
      rcases List.mem_cons.1 he with rfl | he
      · exact hlt
      · exact Text.precedes_trans hlt (hk e he)
    · next hlt =>
      split
      · next heq =>
        subst heq
        exact List.pairwise_cons.2 ⟨hk, hrest⟩
      · next hne =>
        refine List.pairwise_cons.2 ⟨fun e he => ?_, ih hrest⟩
        rcases mem_insert he with rfl | he
        · exact Text.isBefore_of_not_isBefore hlt hne
        · exact hk e he

theorem ascending_ofList (entries : List (String × α)) : Ascending (ofList entries) := by
  suffices ∀ acc : Keyed α, Ascending acc →
      Ascending (entries.foldl (fun acc e => acc.insert e.1 e.2) acc) from this [] .nil
  induction entries with
  | nil => exact fun acc h => h
  | cons e rest ih => exact fun acc h => ih _ (ascending_insert h e.1 e.2)

@[simp] theorem get?_nil (key : String) : get? key ([] : Keyed α) = none := rfl

@[simp] theorem get?_insert_self (key : String) (value : α) (entries : Keyed α) :
    get? key (insert key value entries) = some value := by
  induction entries with
  | nil => simp [insert, get?]
  | cons e rest ih =>
    obtain ⟨k, v⟩ := e
    simp only [insert]
    split
    · simp [get?]
    · split
      · simp [get?]
      · next hne =>
        have : (key == k) = false := by simpa using hne
        simpa [get?, List.lookup_cons, this] using ih

@[simp] theorem get?_insert_of_ne {key other : String} (h : other ≠ key) (value : α)
    (entries : Keyed α) : get? other (insert key value entries) = get? other entries := by
  have hb : (other == key) = false := by simpa using h
  induction entries with
  | nil => simp [insert, get?, List.lookup_cons, hb]
  | cons e rest ih =>
    obtain ⟨k, v⟩ := e
    simp only [insert]
    split
    · simp [get?, List.lookup_cons, hb]
    · split
      · next hk => subst hk; simp [get?, List.lookup_cons, hb]
      · cases ho : other == k with
        | true => simp [get?, List.lookup_cons, ho]
        | false => simpa [get?, List.lookup_cons, ho] using ih

@[grind =] theorem get?_insert (key other : String) (value : α) (entries : Keyed α) :
    get? other (insert key value entries) =
      if other = key then some value else get? other entries := by
  by_cases same : other = key
  · simp [same]
  · simp [same]

/-- Putting the same value under the key again changes nothing. -/
@[simp] theorem insert_insert (key : String) (value : α) (entries : Keyed α) :
    insert key value (insert key value entries) = insert key value entries := by
  have again (rest : Keyed α) : insert key value ((key, value) :: rest) = (key, value) :: rest := by
    rw [insert, Text.isBefore, Text.precedes_irrefl, if_neg Bool.false_ne_true, if_pos rfl]
  induction entries with
  | nil => exact again []
  | cons e rest ih =>
    obtain ⟨k, v⟩ := e
    rw [insert]
    split
    · exact again _
    · next later =>
      split
      · exact again _
      · next other => rw [insert, if_neg later, if_neg other, ih]

/-- What stands where it would be put stays there when a later key gets a value. -/
theorem insert_insert_of_isBefore {key other : String} {value : α} {entries : Keyed α}
    (stands : insert key value entries = entries) (h : Text.isBefore key other = true)
    (value' : α) :
    insert key value (insert other value' entries) = insert other value' entries := by
  induction entries with
  | nil => cases stands
  | cons e rest ih =>
    obtain ⟨k, v⟩ := e
    rw [insert] at stands
    split at stands
    · exact absurd (congrArg List.length stands) (Nat.succ_ne_self _)
    next later =>
    -- The later key goes neither in front of the first entry nor in its place.
    have behind : ¬Text.isBefore other k = true := fun before =>
      later (Text.precedes_trans h before)
    split at stands
    · next first =>
      subst first
      have ne : other ≠ key := by
        rintro rfl
        rw [Text.isBefore, Text.precedes_irrefl] at h
        cases h
      rw [insert, if_neg behind, if_neg ne, insert, if_neg later, if_pos rfl]
      exact congrArg (· :: _) (List.cons.inj stands).1
    · next ne =>
      have ne' : other ≠ k := by
        rintro rfl
        exact later h
      rw [insert, if_neg behind, if_neg ne', insert, if_neg later, if_neg ne,
        ih (List.cons.inj stands).2]

@[simp] theorem get?_cons_self (key : String) (value : α) (rest : Keyed α) :
    get? key ((key, value) :: rest) = some value :=
  List.lookup_cons_self

@[simp] theorem get?_cons_of_ne {key k : String} (h : key ≠ k) (value : α) (rest : Keyed α) :
    get? key ((k, value) :: rest) = get? key rest := by
  have hb : (key == k) = false := by simpa using h
  simp [get?, List.lookup_cons, hb]

theorem get?_eq_none_of_isBefore {key : String} {entries : Keyed α}
    (h : ∀ e ∈ entries, Text.isBefore key e.1 = true) : get? key entries = none := by
  refine List.lookup_eq_none_iff.2 fun e he => ?_
  have before := h e he
  have hne : key ≠ e.1 := by
    intro same
    rw [← same, Text.isBefore, Text.precedes_irrefl] at before
    cases before
  simpa using hne

/-- A first key that has a value in other entries as well does not come before their first key. -/
theorem not_isBefore_of_get?_eq {key k : String} {value v : α} {rest rest' : Keyed α}
    (h : Ascending ((k, v) :: rest'))
    (same : get? key ((key, value) :: rest) = get? key ((k, v) :: rest')) :
    ¬Text.isBefore key k = true := by
  intro before
  have behind : ∀ e ∈ (k, v) :: rest', Text.isBefore key e.1 = true := by
    intro e he
    rcases List.mem_cons.1 he with rfl | he
    · exact before
    · exact Text.precedes_trans before ((List.pairwise_cons.1 h).1 e he)
  rw [get?_cons_self, get?_eq_none_of_isBefore behind] at same
  cases same

/-- Entries in key order are known by what stands under each key. -/
theorem ext_of_ascending {entries others : Keyed α} (h : Ascending entries) (h' : Ascending others)
    (same : ∀ key, get? key entries = get? key others) : entries = others := by
  induction entries generalizing others with
  | nil =>
    cases others with
    | nil => rfl
    | cons e rest => cases (same e.1).trans (get?_cons_self e.1 e.2 rest)
  | cons e rest ih =>
    obtain ⟨k, v⟩ := e
    cases others with
    | nil => cases (get?_cons_self k v rest).symm.trans (same k)
    | cons e' rest' =>
      obtain ⟨k', v'⟩ := e'
      have first : k = k' := by
        refine Classical.byContradiction fun hne => ?_
        exact not_isBefore_of_get?_eq h (same k').symm
          (Text.isBefore_of_not_isBefore (not_isBefore_of_get?_eq h' (same k)) hne)
      subst first
      have value : v = v' := by
        have := same k
        rw [get?_cons_self, get?_cons_self] at this
        exact Option.some.inj this
      subst value
      obtain ⟨hk, hrest⟩ := List.pairwise_cons.1 h
      obtain ⟨hk', hrest'⟩ := List.pairwise_cons.1 h'
      congr 1
      refine ih hrest hrest' fun key => ?_
      by_cases hkey : key = k
      · subst hkey
        rw [get?_eq_none_of_isBefore hk, get?_eq_none_of_isBefore hk']
      · have := same key
        rwa [get?_cons_of_ne hkey, get?_cons_of_ne hkey] at this

end Keyed

end PromptBroker
