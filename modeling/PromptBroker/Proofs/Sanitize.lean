import PromptBroker.Connector.VectorStore
import PromptBroker.Proofs.Kinds
import PromptBroker.Proofs.Settled

/-!
# What sanitized options guarantee

Options that have passed the check of their purpose hold only what the purpose
declares, and for a retrieval they name an action that there is, with an id for a
text to be stored. So what comes later need not refuse them again.
-/

namespace PromptBroker

variable {raw o : Options} {key : String} {w : Json}

/-- What has passed a schema under a key was made from a value that the caller sent. -/
theorem exists_of_validate {s : Schema} (passed : s.validate raw = .ok o)
    (present : o.get? key = some w) :
    ∃ type v, (key, v) ∈ raw ∧ Keyed.get? key s = some type ∧ Schema.coerce? type v = some w := by
  obtain ⟨before, behind, rfl, -⟩ := List.lookup_eq_some_iff.1 present
  obtain ⟨v, type, sent, -, declared, coerced⟩ := (Schema.mem_of_validate passed).1
    (List.mem_append_right before List.mem_cons_self)
  exact ⟨type, v, sent, declared, coerced⟩

/-- What the caller sends under a key passes only if it is declared and can be brought to its type,
and as such it gets through. -/
theorem get?_of_sent {s : Schema} {v : Json} (passed : s.validate raw = .ok o)
    (sent : raw.get? key = some v) (present : v.isNull = false) :
    ∃ type w, Keyed.get? key s = some type ∧ Schema.coerce? type v = some w ∧
      o.get? key = some w := by
  induction raw generalizing o with
  | nil => cases sent
  | cons e rest ih =>
    obtain ⟨type, declared, step⟩ := Schema.validate_cons_eq_ok.1 passed
    by_cases same : key = e.1
    · subst same
      rw [Options.get?, Keyed.get?_cons_self] at sent
      cases sent
      rcases step with ⟨absent, -⟩ | ⟨-, w, others, coerced, -, rfl⟩
      · rw [present] at absent
        cases absent
      · exact ⟨type, w, declared, coerced, Keyed.get?_cons_self ..⟩
    · rw [Options.get?, Keyed.get?_cons_of_ne same] at sent
      rcases step with ⟨-, behind⟩ | ⟨-, w, others, -, behind, rfl⟩
      · exact ih behind sent
      · rw [Options.get?, Keyed.get?_cons_of_ne same]
        exact ih behind sent

/-- Nothing undeclared gets through. -/
theorem get?_of_validate {s : Schema} (passed : s.validate raw = .ok o)
    (undeclared : Keyed.get? key s = none) : o.get? key = none := by
  cases present : o.get? key with
  | none => rfl
  | some w =>
    obtain ⟨type, v, -, declared, -⟩ := exists_of_validate passed present
    cases undeclared.symm.trans declared

namespace Purpose

theorem sanitize_agent {fresh : Uuid} {raw o : Options} (h : sanitize .agent fresh raw = .ok o) :
    Schema.validate (schema .agent) raw = .ok o := by
  unfold sanitize at h
  cases hv : Schema.validate (schema .agent) raw with
  | error f => rw [hv] at h; cases h
  | ok o₁ => rw [hv] at h; exact h

theorem sanitize_embedding (fresh : Uuid) : sanitize .embedding fresh [] = .ok [] := rfl

theorem parse_name (action : RetrievalAction) :
    RetrievalAction.parse action.name = .ok action := by
  have canonical : Text.canonicalName action.name = action.name := by
    cases action <;> decide +kernel
  unfold RetrievalAction.parse
  simp only [canonical, RetrievalAction.ofName?_name]

/-- An action is found under the name that was filled in for it. -/
theorem ofOptions_of_action {o : Options} {action : RetrievalAction}
    (h : o.get? "action" = some (.string action.name)) :
    RetrievalAction.ofOptions o = .ok action := by
  have nonempty : action.name ≠ "" := by cases action <;> decide
  have named : o.text? "action" = some action.name := Options.text?_eq_some.2 ⟨h, nonempty⟩
  unfold RetrievalAction.ofOptions
  rw [named]
  exact parse_name action

theorem completeRetrieval_eq_ok {o o' : Options} (h : completeRetrieval o = .ok o') :
    ∃ action : RetrievalAction, o'.get? "action" = some (.string action.name) ∧
      (action = .store → hasStoreId o' = true) := by
  unfold completeRetrieval at h
  cases ha : RetrievalAction.ofOptions o with
  | error f => rw [ha] at h; cases h
  | ok action =>
    rw [ha] at h
    refine ⟨action, ?_⟩
    have filled : (o.insert "action" (.string action.name)).get? "action" =
        some (.string action.name) := Keyed.get?_insert_self _ _ _
    have kept (v : Json) : ((o.insert "action" (.string action.name)).insert "topk" v).get?
        "action" = some (.string action.name) :=
      (Keyed.get?_insert_of_ne (by decide) _ _).trans filled
    have checked {o₁ : Options} (h : (if action = .store && !hasStoreId o₁ then
        (.error (.invalidParameter "metadata" "storing content requires metadata.id") :
          Outcome Options) else pure o₁) = .ok o') :
        o₁ = o' ∧ (action = .store → hasStoreId o₁ = true) := by
      split at h
      · cases h
      · next hid =>
        cases h
        refine ⟨rfl, fun store => ?_⟩
        simpa [store] using hid
    dsimp only [bind, Except.bind] at h
    cases topk : (o.insert "action" (.string action.name)).int? "topk" with
    | none =>
      rw [topk] at h
      obtain ⟨rfl, id⟩ := checked h
      exact ⟨kept _, id⟩
    | some k =>
      rw [topk] at h
      dsimp only at h
      split at h
      · cases h
      · obtain ⟨rfl, id⟩ := checked h
        exact ⟨filled, id⟩

/-- A sanitized retrieval names an action, and an id for a text to be stored. -/
theorem sanitize_retrieval {fresh : Uuid} {raw o : Options}
    (h : sanitize .retrieval fresh raw = .ok o) :
    ∃ action, RetrievalAction.ofOptions o = .ok action ∧
      (action = .store → ∃ id, (VectorStore.metadata o).get? "id" = some id) := by
  unfold sanitize at h
  cases hv : Schema.validate (schema .retrieval) raw with
  | error f => rw [hv] at h; cases h
  | ok o₁ =>
    rw [hv] at h
    obtain ⟨action, named, id⟩ := completeRetrieval_eq_ok h
    refine ⟨action, ofOptions_of_action named, fun store => ?_⟩
    have hasId := id store
    unfold hasStoreId at hasId
    unfold VectorStore.metadata
    cases hm : o.get? "metadata" with
    | none => rw [hm] at hasId; cases hasId
    | some m =>
      rw [hm] at hasId
      cases hid : m.get? "id" with
      | none => simp [hid] at hasId
      | some v => exact ⟨v, hid⟩

end Purpose

end PromptBroker
