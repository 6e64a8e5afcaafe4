import PromptBroker.Proofs.Request.Course
import PromptBroker.Proofs.VectorStore.Setup

/-!
# A vector store over time

A connector to a vector store is built without knowing its backend. From then on
requests come, each with an attempt to see to the backend; an operator sets or clears
setup flags; and the world goes on in between, with any other calls. `Reached` gives the
situations that come of it, and the attempts made so far.

What every attempt keeps to is kept over any number of steps (`conforms_of_reached`): a
setup is never left unfinished, and a backend counts as ready only if an attempt since the
connector was built has seen its collection or created it.
-/

namespace PromptBroker.VectorStore

open Http (Payload)

variable {i : Instance}

/-! ### Attempts -/

/-- How matters stand: what the connector knows, the flags outside, and the world. -/
structure Situation where
  state : BackendState
  flags : Flags
  world : World

/-- What the setup flag says. -/
def Situation.flag (s : Situation) : SetupStatus := s.flags.status flagKey

/-- The flags once the broker has written the setup flag. -/
def Situation.written (s : Situation) (flag : SetupStatus) : Flags :=
  (Broker.updateFlag s.flag flag { flags := s.flags }).flags

/-- A flag that stays as it is is not written. -/
theorem Situation.written_flag (s : Situation) : s.written s.flag = s.flags :=
  congrArg Broker.flags (if_pos rfl)

/-- An attempt to see to the backend. -/
structure Attempt where
  before : Situation
  outcome : Outcome Unit
  after : Situation

namespace Attempt

/-- The attempt is the one that is made for the instance when matters stand as before. -/
def Made (i : Instance) (a : Attempt) : Prop :=
  ∃ flag, ensure i a.before.state a.before.flag a.before.world =
      .ok ((a.outcome, a.after.state, flag), a.after.world) ∧
    a.after.flags = a.before.written flag

/-- What every attempt keeps to, given what is asked on the way. -/
structure Conforms (i : Instance) (a : Attempt) (asked : List (Payload × Delivery)) : Prop where
  asks : Asks i a.before.world asked a.after.world
  /-- Nothing else goes on record. -/
  records : a.before.world.Records a.after.world (requests i asked)
  /-- No attempt stays unfinished. -/
  finished : a.after.state ≠ .initializing
  ok_iff : a.outcome = .ok () ↔ a.after.state = .ready
  failed : ∀ f, a.outcome = .error f →
    a.after.state = .uninitialized ∨ ∃ reason, a.after.state = .failed reason
  /-- While the flag is set, nothing is asked. -/
  latched : ∀ code, a.before.flag = .failed code →
    asked = [] ∧ a.after.world = a.before.world ∧ a.after.flags = a.before.flags ∧
      a.after.state = .failed (latchedReason code) ∧
      a.outcome = .error (.initializationFailed flagKey (latchedReason code))
  /-- What has been seen to is not seen to again. -/
  standing : a.before.state = .ready → a.before.flag = .ok → asked = [] ∧ a.after = a.before
  /-- Otherwise the collections are listed. -/
  tries : a.before.state ≠ .ready → a.before.flag = .ok → ∀ fields, headers i = .ok fields →
    ∃ d others, asked = (listing i, d) :: others
  /-- A list of collections that is not to be had leaves it to the next attempt. -/
  unlisted : ∀ d f, (listing i, d) ∈ asked → readListing d = .error f →
    asked = [(listing i, d)] ∧ a.after.flags = a.before.flags ∧
      a.after.state = .uninitialized ∧ a.outcome = .error f
  /-- The collection is created right after a list that does not name it, and at no other time. -/
  creation : ∀ earlier d later, asked = earlier ++ (VectorStore.creation i, d) :: later →
    ∃ status body v, earlier = [(listing i, .success status body)] ∧
      Http.Status.isSuccess status = true ∧ Json.readBytes body = .ok v ∧
        lists (collection i) v = false
  /-- At most one list and one creation are asked for. -/
  budget : asked.map Prod.fst <+: [listing i, VectorStore.creation i]
  confirmed : a.before.state ≠ .ready → a.after.state = .ready → Confirmed i asked

theorem Made.conforms {a : Attempt} (made : a.Made i) : ∃ asked, a.Conforms i asked := by
  obtain ⟨⟨state, flags, w⟩, outcome, ⟨state', flags', w'⟩⟩ := a
  obtain ⟨flag', made, written⟩ := made
  dsimp only at written
  obtain ⟨asked, setup⟩ := setup_of_ensure made
  dsimp only at setup
  have kept (same : flag' = Situation.flag ⟨state, flags, w⟩) : flags' = flags := by
    rw [written, same]
    exact Situation.written_flag _
  refine ⟨asked, {
    asks := setup.asks
    records := setup.asks.records
    finished := setup.ne_initializing
    ok_iff := setup.ok_iff
    failed := fun f => setup.state_of_error
    latched := fun code latched => ?_
    standing := fun ready sound => ?_
    tries := fun unready sound fields => setup.tries unready sound
    unlisted := fun d f listed unread => ?_
    creation := fun earlier d later => setup.of_creation
    budget := setup.asked_prefix
    confirmed := setup.confirmed }⟩
  · obtain ⟨nothing, same, flag, state, outcome⟩ := setup.of_latched latched
    exact ⟨nothing, same, kept flag, state, outcome⟩
  · obtain ⟨nothing, rfl, flag, rfl⟩ := setup.of_standing ready sound
    dsimp only at ready
    exact ⟨nothing, by rw [kept flag, ready]⟩
  · obtain ⟨only, flag, state, outcome⟩ := setup.of_unlisted listed unread
    exact ⟨only, kept flag, state, outcome⟩

theorem exists_made (i : Instance) (s : Situation) : ∃ a : Attempt, a.before = s ∧ a.Made i := by
  obtain ⟨⟨outcome, state, flag⟩, w, returned⟩ := returns_ensure i s.state s.flag s.world
  exact ⟨⟨s, outcome, ⟨state, s.written flag, w⟩⟩, rfl, flag, returned, rfl⟩

end Attempt

/-! ### Requests -/

section Requests

variable {route : Broker.Route} {text : String} {o : Options} {b : Broker} {w w' : World}
  {c : Connector} {state : BackendState} {flag : SetupStatus}

theorem flags_planned (name : String) (flag : SetupStatus) :
    (b.planned name c flag).flags = Situation.written ⟨state, b.flags, w⟩ flag := by
  unfold Broker.planned Situation.written Situation.flag Broker.updateFlag
  split
  · rfl
  · rfl

theorem Attempt.exists_of_plan {x : Outcome Plan}
    (binding : route.connector.binding = .qdrant state)
    (plan : route.connector.plan (b.flags.status flagKey) text o w = .ok ((x, c, flag), w')) :
    ∃ a : Attempt, a.before = ⟨state, b.flags, w⟩ ∧ a.Made route.connector.config ∧
      c = { route.connector with binding := .qdrant a.after.state } ∧
      (b.planned route.name c flag).flags = a.after.flags ∧
      ∀ f, a.outcome = .error f → x = .error f := by
  cases Connector.plan_eq_ok.1 plan with
  | direct payload =>
    unfold Connector.payload? at payload
    rw [binding] at payload
    cases payload
  | @setUp state₀ outcome state' _ _ bound ensure =>
    cases binding.symm.trans bound
    refine ⟨⟨⟨state, b.flags, w⟩, outcome, ⟨state', _, w'⟩⟩, rfl, ⟨flag, ensure, rfl⟩, rfl,
      flags_planned route.name flag, ?_⟩
    rintro f failed
    dsimp only at failed
    rw [failed]
    rfl

end Requests

/-! ### Any number of requests -/

/-- Where a connector can get to from when it was built, with the attempts that have been made
since. -/
inductive Reached (i : Instance) : Situation → List Attempt → Prop
  | built (flags : Flags) (w : World) : Reached i ⟨.uninitialized, flags, w⟩ []
  /-- A request sees to the backend before anything else. -/
  | request {a attempts} (reached : Reached i a.before attempts) (made : a.Made i) :
      Reached i a.after (attempts ++ [a])
  | setStatus {s attempts} (reached : Reached i s attempts) (backend : String)
      (status : SetupStatus) :
      Reached i { s with flags := s.flags.setStatus backend status } attempts
  | clear {s attempts} (reached : Reached i s attempts) (backend : String) :
      Reached i { s with flags := s.flags.clear backend } attempts
  /-- The world goes on, with other requests too. -/
  | elsewhere {s attempts} (reached : Reached i s attempts) (w : World) :
      Reached i { s with world := w } attempts

namespace Reached

variable {s : Situation} {attempts : List Attempt}

theorem attempts_conform (h : Reached i s attempts) :
    ∀ a ∈ attempts, ∃ asked, a.Conforms i asked := by
  induction h with
  | built => exact fun _ h => nomatch h
  | request _ made ih =>
    intro a ha
    rcases List.mem_append.1 ha with ha | ha
    · exact ih a ha
    · cases List.mem_singleton.1 ha
      exact made.conforms
  | setStatus _ _ _ ih | clear _ _ ih | elsewhere _ _ ih => exact ih

theorem finished (h : Reached i s attempts) : s.state ≠ .initializing := by
  induction h with
  | built => exact nofun
  | request _ made =>
    obtain ⟨asked, conforms⟩ := made.conforms
    exact conforms.finished
  | setStatus _ _ _ ih | clear _ _ ih | elsewhere _ _ ih => exact ih

/-- A backend that counts as ready has shown its collection since the connector was built. -/
theorem confirmed (h : Reached i s attempts) (ready : s.state = .ready) :
    ∃ a ∈ attempts, ∃ asked, a.Conforms i asked ∧ Confirmed i asked := by
  induction h with
  | built => cases ready
  | @request a attempts _ made ih =>
    obtain ⟨asked, conforms⟩ := made.conforms
    by_cases already : a.before.state = .ready
    · obtain ⟨a, ha, shown⟩ := ih already
      exact ⟨a, List.mem_append_left _ ha, shown⟩
    · exact ⟨_, List.mem_append_right _ List.mem_cons_self, asked, conforms,
        conforms.confirmed already ready⟩
  | setStatus _ _ _ ih | clear _ _ ih | elsewhere _ _ ih => exact ih ready

end Reached

/-- Whatever has happened since a connector was built: it is never left in the middle of a setup,
it counts as set up only if its collection has been seen or created since, every attempt conforms,
and the next one has an outcome. -/
theorem conforms_of_reached {s : Situation} {attempts : List Attempt} (h : Reached i s attempts) :
    s.state ≠ .initializing ∧
      (s.state = .ready → ∃ a ∈ attempts, ∃ asked, a.Conforms i asked ∧ Confirmed i asked) ∧
      (∀ a ∈ attempts, ∃ asked, a.Conforms i asked) ∧
      ∃ a : Attempt, a.before = s ∧ a.Made i :=
  ⟨h.finished, h.confirmed, h.attempts_conform, Attempt.exists_made i s⟩

/-- A vector store on the same machine. -/
def store : Instance :=
  { name := "store", provider := .qdrant, model := "text-embedding-small3"
    endpoint := "http://[::1]/" }

/-- A backend with these collections. -/
def holding (names : List String) : String :=
  Json.render (.object [("result", .object [("collections",
    .array (names.map fun name => .object [("name", .string name)]))])])

/-- Why the backend counts as failed when it refuses to create the collection. -/
def refusal : String :=
  "Transport error: Creating collection 'moodle' failed: " ++
    "API error 500 Internal Server Error: no"

/-- An attempt of which state and flag are known. -/
theorem exists_made_of_ensure {s : Situation} {state : BackendState} {flag : SetupStatus}
    (h : (ensure i s.state s.flag s.world).toOption.map (·.1.2) = some (state, flag)) :
    ∃ a : Attempt, a.before = s ∧ a.Made i ∧ a.after.state = state ∧
      a.after.flags = s.written flag := by
  cases returned : ensure i s.state s.flag s.world with
  | error e => rw [returned] at h; cases h
  | ok r =>
    obtain ⟨⟨outcome, state', flag'⟩, w⟩ := r
    rw [returned] at h
    cases h
    exact ⟨⟨s, outcome, ⟨state, s.written flag, w⟩⟩, rfl, ⟨flag, returned, rfl⟩, rfl, rfl⟩

/-- At first the collection cannot be created. Once the flag has been cleared, it is there. -/
theorem conforms_after_refusal :
    ∃ s attempts, Reached store s attempts ∧
      attempts.map (·.after.state) = [.failed refusal, .ready] ∧
        ∃ a ∈ attempts, ∃ asked, a.Conforms store asked ∧ Confirmed store asked := by
  let unknown : Situation :=
    ⟨.uninitialized, [], .answering [(200, holding ["other"]), (500, "no")]⟩
  let cleared : Situation :=
    ⟨.failed refusal, [], .answering [(200, holding ["other", "moodle"])]⟩
  obtain ⟨a, before, made, failed, flags⟩ : ∃ a : Attempt, a.before = unknown ∧ a.Made store ∧
      a.after.state = .failed refusal ∧ a.after.flags = unknown.written creationFailed :=
    exists_made_of_ensure (by decide +kernel)
  obtain ⟨a', before', made', ready, -⟩ : ∃ a : Attempt, a.before = cleared ∧ a.Made store ∧
      a.after.state = .ready ∧ a.after.flags = cleared.written .ok :=
    exists_made_of_ensure (by decide +kernel)
  have first : Reached store a.before [] := before ▸ .built ..
  have second : Reached store a'.before [a] := by
    have reached := ((first.request made).clear flagKey).elsewhere cleared.world
    rw [failed, flags] at reached
    rw [before']
    exact reached
  have reached := second.request made'
  refine ⟨_, _, reached, ?_, (conforms_of_reached reached).2.1 ready⟩
  rw [List.singleton_append, List.map_cons, List.map_cons, List.map_nil, failed, ready]

end PromptBroker.VectorStore
