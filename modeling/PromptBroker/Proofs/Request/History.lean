import PromptBroker.Proofs.Request.Course

/-!
# Histories

Requests are served one after the other, each by the broker and in the world that
the one before it left. A history is the log of a run of requests: for each of them
what it found, what came of it, and what it left. Requests are served exactly if
they have a history (`serveAll_eq_ok_iff`), and what holds of each step in it is
proved by induction along it.
-/

namespace PromptBroker.Broker

/-- Makes requests one after the other. -/
def serveAll (qs : List Request) : Action (List Response) := qs.mapM Request.make

/-- A request that has been answered. -/
structure Answered where
  request : Request
  before : Broker
  /-- The world before the request. -/
  world : World
  /-- The response to the embedding request on the way, if there was one. -/
  nested : Option Response
  response : Response
  after : Broker

/-- The log of requests made one after the other. -/
inductive History : Broker → World → List Answered → Broker → World → Prop
  | nil {b w} : History b w [] b w
  | cons {q b w nested r b₁ w₁ log b' w'} (course : Course Embeds q b w nested r b₁ w₁)
      (rest : History b₁ w₁ log b' w') : History b w (⟨q, b, w, nested, r, b₁⟩ :: log) b' w'

variable {b b' : Broker} {w w' : World} {log : List Answered}

/-- Requests are served exactly if they have a history. -/
theorem serveAll_eq_ok_iff {qs : List Request} {rs : List Response} :
    serveAll qs b w = .ok ((rs, b'), w') ↔
      ∃ log, History b w log b' w' ∧ log.map (·.request) = qs ∧ log.map (·.response) = rs := by
  unfold serveAll
  induction qs generalizing b w rs with
  | nil =>
    rw [List.mapM_nil, Action.pure_eq_ok]
    constructor
    · rintro ⟨rfl, rfl, rfl⟩
      exact ⟨[], .nil, rfl, rfl⟩
    · rintro ⟨log, history, hq, rfl⟩
      obtain rfl := List.map_eq_nil_iff.1 hq
      cases history
      exact ⟨rfl, rfl, rfl⟩
  | cons q qs ih =>
    rw [List.mapM_cons, Action.bind_eq_ok]
    constructor
    · rintro ⟨r, b₁, w₁, hr, h⟩
      obtain ⟨rs, b₂, w₂, hrs, h⟩ := Action.bind_eq_ok.1 h
      obtain ⟨rfl, rfl, rfl⟩ := Action.pure_eq_ok.1 h
      obtain ⟨nested, course⟩ := make_eq_ok_iff.1 hr
      obtain ⟨log, history, rfl, rfl⟩ := ih.1 hrs
      exact ⟨_, .cons course history, rfl, rfl⟩
    · rintro ⟨log, history, hq, rfl⟩
      cases history with
      | nil => cases hq
      | cons course rest =>
        obtain ⟨rfl, rfl⟩ := List.cons_eq_cons.1 hq
        refine ⟨_, _, _, make_eq_ok_iff.2 ⟨_, course⟩, ?_⟩
        exact Action.bind_eq_ok.2 ⟨_, _, _, ih.2 ⟨_, rest, rfl, rfl⟩, rfl⟩

/-- Each request of a history has taken its course. -/
theorem History.course (h : History b w log b' w') {a : Answered} (ha : a ∈ log) :
    ∃ w₁, Course Embeds a.request a.before a.world a.nested a.response a.after w₁ := by
  induction h with
  | nil => cases ha
  | cons course _ ih =>
    rcases List.mem_cons.1 ha with rfl | ha
    · exact ⟨_, course⟩
    · exact ih ha

/-! ### A small installation

One provider on the same machine serves the basic role. It is what the theorems about runs are
tried on. -/

namespace Sample

def caller : Caller := ⟨42, "school", .basic⟩

def instance_ : Instance :=
  { name := "local", provider := .ollama, model := "llama3.3", endpoint := "http://[::1]/" }

/-- Every purpose is assigned to the instance, and may be used as often as the limit says. -/
def broker (limit : UInt64) : Broker where
  config :=
    { instances := [("local", instance_)]
      assignment? := fun _ _ => some "local"
      limit := fun _ _ => limit }
  connectors := [("local", ⟨instance_, .ollama⟩)]

/-- The provider answers with these texts, one after the other. -/
def world (answers : List String) : World where
  peer := ⟨["http".toList], answers.map fun text => .reply ⟨200, [], text.toUTF8⟩, []⟩
  clock := fun _ => ⟨0⟩
  names := fun _ => Uuid.ofBytes []

/-- A question to the model. -/
def chat : Request := ⟨caller, .chat, "Hello", 1, []⟩

/-- The provider's answer with a text of the model. -/
def said (text : String) : String :=
  "\x7b\"message\": \x7b\"content\": " ++ Text.quoted text ++ "\x7d\x7d"

end Sample

end PromptBroker.Broker
