import PromptBroker.Proofs.Agent
import PromptBroker.Proofs.Request.Gate
import PromptBroker.Proofs.Request.History

/-!
# What agents answer

A request to an agent succeeds exactly if a model has said something, and then the
response carries the answer that the contract asks for: by the options of this
request, and by what has been said to it. Which requests came before makes no
difference (`contract_of_serveAll`).
-/

namespace PromptBroker.Broker

variable {q : Request} {b b' : Broker} {w w' : World} {nested : Option Response} {r : Response}
  {o : Options} {model output content : String} {usage : Usage}

/-- The model has answered the request: the connector finds this output in what the provider has
sent back. -/
inductive Says (q : Request) (b : Broker) (w : World) (o : Options) (model : String)
    (usage : Usage) (output : String) : Prop
  | intro {route text b₁ w₁ nested p c b₂ w₂ status body c' b₃ w₃}
      (admitted : Admitted q b w route o text b₁ w₁)
      (prepares : Prepares Embeds q.caller route text o b₁ w₁ nested (.ok p) c b₂ w₂)
      (submits : Submits route.name c p b₂ w₂ (.ok (.success status body)) c' b₃ w₃)
      (decoded : c'.decode body o = .ok (.text model usage output)) :
      Says q b w o model usage output

/-! ### One request -/

theorem respond_of_text {c : Connector} {body : ByteArray}
    (decoded : c.decode body o = .ok (.text model usage output)) (user context : Int)
    (files : Files) :
    c.respond body o user context files = (.success model usage output, files) := by
  unfold Connector.respond
  rw [decoded]
  rfl

/-- Where no files are delivered, a success is made of what the model has said. -/
theorem text_of_respond {c : Connector} {body : ByteArray} {user context : Int}
    {files files' : Files} (binding : c.binding = .ollama ∨ c.binding = .embeddings)
    (responded : c.respond body o user context files = (.success model usage output, files')) :
    c.decode body o = .ok (.text model usage output) := by
  unfold Connector.respond at responded
  cases decoded : c.decode body o with
  | error f => rw [decoded] at responded; cases responded
  | ok content =>
    cases content with
    | text model' usage' output' => rw [decoded] at responded; cases responded; rfl
    | file bytes => exact absurd decoded (Connector.decode_ne_file binding _ _ _)

theorem Says.exists_make (h : Says q b w o model usage output) :
    ∃ b' w', q.make b w =
      .ok ((.success model usage (q.purpose.formatOutput o output), b'), w') := by
  obtain ⟨admitted, prepares, submits, decoded⟩ := h
  have responded := respond_of_text decoded q.caller.user q.context
  exact ⟨_, _, make_eq_ok_iff.2 ⟨_, .answered admitted prepares submits (responded _)⟩⟩

theorem Course.exists_says (h : Course Embeds q b w nested (.success model usage content) b' w')
    (agent : q.purpose = .agent) :
    ∃ o output, Says q b w o model usage output ∧ content = q.purpose.formatOutput o output := by
  generalize hr : Response.success model usage content = r at h
  cases h with
  | barred => cases hr
  | refused => cases hr
  | unprepared => cases hr
  | unsigned => cases hr
  | undelivered => cases hr
  | @answered route o text b₁ w₁ nested p c b₂ w₂ status body c' b₃ w' r files admitted prepares
      submits responded =>
    cases r with
    | failure => cases hr
    | success model' usage' output =>
      cases hr
      have serves := admitted.serves_of_submits prepares submits
      rw [agent] at serves
      have decoded := text_of_respond (.inl (Connector.binding_of_agent serves)) responded
      exact ⟨o, output, ⟨admitted, prepares, submits, decoded⟩, rfl⟩

/-- The request succeeds exactly if the model has said something, and its content is then the
answer that keeps the contract. -/
theorem Course.eq_success_iff (h : Course Embeds q b w nested r b' w')
    (agent : q.purpose = .agent) :
    r = .success model usage content ↔
      ∃ o output v, Says q b w o model usage output ∧ Agent.Contract o output v ∧
        content = v.render := by
  constructor
  · rintro rfl
    obtain ⟨o, output, said, rfl⟩ := h.exists_says agent
    rw [agent]
    exact ⟨o, output, _, said, Agent.contract_answer o output, rfl⟩
  · rintro ⟨o, output, v, said, contract, rfl⟩
    obtain ⟨b'', w'', made⟩ := said.exists_make
    have same := (make_eq_ok_iff.2 ⟨nested, h⟩).symm.trans made
    rw [agent, contract.eq_answer] at *
    cases same
    rfl

/-! ### Runs -/

/-- An agent's request has been answered by the contract for its own options. -/
structure Answered.KeepsContract (a : Answered) : Prop where
  /-- Once its options are accepted, whatever a model may say is formatted to what the contract
  asks for, also by a strategy that has served other requests before. -/
  formatted (o : Options) (s : Agent.Strategy) (output : String)
      (accepted : Purpose.sanitize .agent (a.world.names a.world.drawn) a.request.raw = .ok o) :
    ∃ v, Agent.Contract o output v ∧
      (s.sanitize (a.world.names a.world.drawn) a.request.raw).2.formatOutput output = v.render ∧
      Purpose.formatOutput .agent o output = v.render
  /-- It has succeeded exactly if a model has said something, with what the contract asks for. -/
  succeeded (model : String) (usage : Usage) (content : String) :
    a.response = .success model usage content ↔
      ∃ o output v, Says a.request a.before a.world o model usage output ∧
        Agent.Contract o output v ∧ content = v.render

/-- In every run of requests each one to an agent is answered by the contract for its own
options. -/
theorem contract_of_serveAll {qs : List Request} {rs : List Response}
    (served : serveAll qs b w = .ok ((rs, b'), w')) :
    ∃ log, History b w log b' w' ∧ log.map (·.request) = qs ∧ log.map (·.response) = rs ∧
      ∀ a ∈ log, a.request.purpose = .agent → a.KeepsContract := by
  obtain ⟨log, history, hqs, hrs⟩ := serveAll_eq_ok_iff.1 served
  refine ⟨log, history, hqs, hrs, fun a ha agent => ⟨?_, ?_⟩⟩
  · intro o s output accepted
    exact s.exists_contract accepted output
  · intro model usage content
    obtain ⟨w₁, course⟩ := history.course ha
    exact course.eq_success_iff agent

/-- A request to fill in a form with one element. -/
def Sample.form (id : String) : Request where
  caller := Sample.caller
  purpose := .agent
  prompt := "Fill in the form"
  context := 1
  raw := [("formelements", .array [.object [("id", .string id)]])]

/-- What is said by a model that fills in two elements and adds a note. -/
def Sample.twoElements : String :=
  "\x7b\"formelements\":[\x7b\"id\":\"a\"\x7d,\x7b\"id\":\"b\"\x7d],\"note\":1\x7d"

/-- What is left of it when one of the elements is offered. -/
def Sample.oneElement (id : String) : String :=
  "\x7b\"chatoutput\":[\x7b\"text\":\"\",\"type\":\"intro\"\x7d," ++
  "\x7b\"text\":\"\",\"type\":\"outro\"\x7d]," ++
  "\"formelements\":[\x7b\"id\":\"" ++ id ++ "\"\x7d],\"note\":1\x7d"

/-- Two forms are filled in one after the other, and the model says the same both times: the first
answer keeps the one element and the second answer keeps the other. -/
theorem contract_of_two_forms :
    ∃ rs b' w', serveAll [Sample.form "a", Sample.form "b"] (Sample.broker 2)
        (Sample.world [Sample.said Sample.twoElements, Sample.said Sample.twoElements]) =
          .ok ((rs, b'), w') ∧
      rs.map Response.content? = [some (Sample.oneElement "a"), some (Sample.oneElement "b")] ∧
      ∃ log : List Answered, log.map (·.response) = rs ∧ ∀ a ∈ log, a.KeepsContract := by
  have contents : (serveAll [Sample.form "a", Sample.form "b"] (Sample.broker 2)
      (Sample.world [Sample.said Sample.twoElements, Sample.said Sample.twoElements])).toOption.map
        (fun s => s.1.1.map Response.content?) =
          some [some (Sample.oneElement "a"), some (Sample.oneElement "b")] := by
    decide +kernel
  cases served : serveAll [Sample.form "a", Sample.form "b"] (Sample.broker 2)
      (Sample.world [Sample.said Sample.twoElements, Sample.said Sample.twoElements]) with
  | error e => rw [served] at contents; cases contents
  | ok s =>
    obtain ⟨⟨rs, b'⟩, w'⟩ := s
    rw [served] at contents
    obtain ⟨log, _, requests, responses, contract⟩ := contract_of_serveAll served
    refine ⟨rs, b', w', rfl, Option.some.inj contents, log, responses, fun a ha => ?_⟩
    have form : a.request ∈ [Sample.form "a", Sample.form "b"] :=
      requests ▸ List.mem_map_of_mem ha
    refine contract a ha ?_
    rcases List.mem_cons.1 form with h | h
    · exact h ▸ rfl
    · exact List.mem_singleton.1 h ▸ rfl

end PromptBroker.Broker
