import PromptBroker.Json.Recovery
import PromptBroker.Proofs.Json.Grammar

/-!
# What is recovered

The reader makes values of one form (`Built`): the members of every object in them are in key
order, and containers nest no deeper than the reader was allowed to go. Whichever of the three
readings gives an object, it is one that the reader has made (`built_of_recover`).
-/

namespace PromptBroker

theorem Keyed.mem_of_mem_ofList {α : Type} {entries : List (String × α)} {e : String × α}
    (h : e ∈ ofList entries) : e ∈ entries := by
  suffices each : ∀ acc : Keyed α, e ∈ entries.foldl (fun acc e => acc.insert e.1 e.2) acc →
      e ∈ entries ∨ e ∈ acc from (each [] h).resolve_right List.not_mem_nil
  clear h
  induction entries with
  | nil => exact fun acc h => .inr h
  | cons d entries ih =>
    intro acc h
    rcases ih _ h with h | h
    · exact .inl (List.mem_cons_of_mem d h)
    · rcases mem_insert h with rfl | h
      · exact .inl List.mem_cons_self
      · exact .inr h

namespace Json

/-- The values that a reader makes which may open this many containers inside each other. -/
inductive Built : Nat → Json → Prop
  | null {depth} : Built depth .null
  | bool {depth b} : Built depth (.bool b)
  | number {depth n} : Built depth (.number n)
  | string {depth s} : Built depth (.string s)
  | array {depth items} (inside : ∀ v ∈ items, Built depth v) : Built (depth + 1) (.array items)
  | object {depth members} (order : Keyed.Ascending members)
      (inside : ∀ e ∈ members, Built depth e.2) : Built (depth + 1) (.object members)

theorem Built.ofMembers {depth : Nat} {members : List (String × Json)}
    (h : ∀ e ∈ members, Built depth e.2) : Built (depth + 1) (Json.ofMembers members) :=
  .object (Keyed.ascending_ofList members) fun e he => h e (Keyed.mem_of_mem_ofList he)

/-- With this many steps, whatever is read has been built within the depth. -/
structure ReadsBuilt (steps : Nat) : Prop where
  value {depth cs v rest} : readValue steps depth cs = .ok (v, rest) → Built depth v
  items {depth cs vs rest} : readItems steps depth cs = .ok (vs, rest) → ∀ v ∈ vs, Built depth v
  members {depth cs ms rest} : readMembers steps depth cs = .ok (ms, rest) →
    ∀ e ∈ ms, Built depth e.2

variable {cs rest : List Char} {steps depth : Nat} {v : Json}

theorem ReadsBuilt.value_succ (h : ReadsBuilt steps)
    (read : readValue (steps + 1) depth cs = .ok (v, rest)) : Built depth v := by
  unfold readValue at read
  split at read
  · cases read
  · rw [eq_value_of_readWord read]; exact .null
  · rw [eq_value_of_readWord read]; exact .bool
  · rw [eq_value_of_readWord read]; exact .bool
  · obtain ⟨_, -, rfl⟩ := exists_of_map read
    exact .string
  · cases depth with
    | zero => cases read
    | succ depth =>
      dsimp only at read
      split at read
      · cases read
        exact .array (List.forall_mem_nil _)
      · obtain ⟨vs, items, rfl⟩ := exists_of_map read
        exact .array (h.items items)
  · cases depth with
    | zero => cases read
    | succ depth =>
      dsimp only at read
      split at read
      · cases read
        exact .object .nil (List.forall_mem_nil _)
      · obtain ⟨ms, members, rfl⟩ := exists_of_map read
        exact .ofMembers (h.members members)
  · split at read
    · obtain ⟨_, -, rfl⟩ := exists_of_map read
      exact .number
    · cases read

theorem ReadsBuilt.items_succ (h : ReadsBuilt steps) {vs : List Json}
    (read : readItems (steps + 1) depth cs = .ok (vs, rest)) : ∀ v ∈ vs, Built depth v := by
  unfold readItems at read
  split at read
  · cases read
  next v left first =>
  have built := h.value first
  split at read
  · cases read
  · cases read
    exact List.forall_mem_singleton.2 built
  · obtain ⟨vs, items, rfl⟩ := exists_of_map read
    exact List.forall_mem_cons.2 ⟨built, h.items items⟩
  · cases read

theorem ReadsBuilt.members_succ (h : ReadsBuilt steps) {ms : List (String × Json)}
    (read : readMembers (steps + 1) depth cs = .ok (ms, rest)) : ∀ e ∈ ms, Built depth e.2 := by
  unfold readMembers at read
  split at read
  · cases read
  · split at read
    · cases read
    split at read
    · cases read
    · split at read
      · cases read
      next v left value =>
      have built := h.value value
      split at read
      · cases read
      · cases read
        exact List.forall_mem_singleton.2 built
      · obtain ⟨ms, members, rfl⟩ := exists_of_map read
        exact List.forall_mem_cons.2 ⟨built, h.members members⟩
      · cases read
    · cases read
  · cases read

theorem readsBuilt (steps : Nat) : ReadsBuilt steps := by
  induction steps with
  | zero => exact ⟨nofun, nofun, nofun⟩
  | succ steps ih => exact ⟨ih.value_succ, ih.items_succ, ih.members_succ⟩

theorem built_of_readWithin (read : readWithin depth cs = .ok v) : Built depth v := by
  unfold readWithin complete at read
  split at read
  · cases read
  next v left value =>
  split at read
  · cases read
    exact (readsBuilt _).value value
  · cases read

theorem built_of_readObject? (h : readObject? cs = some v) :
    v.isObject = true ∧ Built maxDepth v := by
  unfold readObject? at h
  split at h
  · next u read =>
    split at h
    · next object =>
      cases h
      exact ⟨object, built_of_readWithin read⟩
    · cases h
  · cases h

/-- What is recovered is an object that the reader has made. -/
theorem built_of_recover {text : String} (h : recover text = .ok v) :
    v.isObject = true ∧ Built maxDepth v := by
  have recovered : recoverChars? text.toList = some v := by
    unfold recover at h
    cases some? : recoverChars? text.toList with
    | none => rw [some?] at h; cases h
    | some u => rw [some?] at h; cases h; rfl
  unfold recoverChars? at recovered
  rcases Option.or_eq_some_iff.1 recovered with whole | ⟨-, rest⟩
  · exact built_of_readObject? whole
  · rcases Option.or_eq_some_iff.1 rest with cleaned | ⟨-, extracted⟩
    · exact built_of_readObject? cleaned
    · obtain ⟨_, -, read⟩ := Option.bind_eq_some_iff.1 extracted
      exact built_of_readObject? read

/-- What is recovered is an object with its members in key order. -/
theorem recover_eq_ok {text : String} (h : recover text = .ok v) :
    ∃ members, v = .object members ∧ Keyed.Ascending members := by
  obtain ⟨object, built⟩ := built_of_recover h
  cases built with
  | object order inside => exact ⟨_, rfl, order⟩
  | _ => cases object

end Json

end PromptBroker
