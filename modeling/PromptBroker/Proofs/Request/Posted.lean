import PromptBroker.Proofs.Defaults
import PromptBroker.Proofs.Request.Budget
import PromptBroker.Proofs.Request.Verdict

/-!
# What a request puts on record

A request ends in some world, for it returns there or breaks down there, and all that has
been asked for by then is on record. So whatever is to hold of everything that goes out to
a provider is said of the requests on that record (`Posts`), and it is enough to look at
the payloads that the connector of the request makes of its options
(`Posts.exists_payload`).
-/

namespace PromptBroker

variable {w w' : World} {requests requests' : List Http.Request}

theorem Http.body_of_request? {p : Http.Payload} {h : Http.Headers} {r : Http.Request}
    (asked : p.request? h = some r) : r.body = p.body := by
  unfold Payload.request? at asked
  split at asked
  · cases asked
  · obtain ⟨url, -, asked⟩ := Option.bind_eq_some_iff.1 asked
    split at asked
    · cases asked
      rfl
    · cases asked

theorem Http.body_of_page {url : String} {r : Http.Request}
    (asked : Http.request? .get url [] .empty = some r) : r.body = .empty := by
  obtain ⟨u, -, asked⟩ := Option.bind_eq_some_iff.1 asked
  split at asked
  · cases asked
    rfl
  · cases asked

/-- Every request that errands afford is made on one of them. -/
theorem Connector.Affords.exists_errand {c : Connector} {text : String} {o : Options}
    {errands : List Errand} {r : Http.Request} (affords : c.Affords text o errands requests)
    (mem : r ∈ requests) : ∃ e ∈ errands, c.Makes text o e r := by
  obtain ⟨run, some, makes⟩ := affords
  induction makes with
  | nil => cases mem
  | cons made _ ih =>
    rcases List.mem_cons.1 mem with rfl | mem
    · exact ⟨_, some.subset List.mem_cons_self, made⟩
    · exact ih mem ((List.sublist_cons_self _ _).trans some)

namespace Broker

variable {q : Request} {b : Broker} {r : Http.Request}

/-- The worlds in which a request ends: it returns there, or it breaks down there. -/
inductive Concludes (q : Request) (b : Broker) (w : World) : World → Prop
  | returned {response : Response} {b' : Broker} {w' : World}
      (made : q.make b w = .ok ((response, b'), w')) : Concludes q b w w'
  | interrupted {w' : World} (interrupted : Interrupted q b w w') : Concludes q b w w'

theorem Concludes.spends (concludes : Concludes q b w w') : Spends q b w w' := by
  cases concludes with
  | returned made =>
    obtain ⟨nested, course⟩ := make_eq_ok_iff.1 made
    exact course.spends embeds_spends
  | interrupted interrupted => exact interrupted.spends

/-- By the time a request ends, this one is on record. -/
def Posts (q : Request) (b : Broker) (w : World) (r : Http.Request) : Prop :=
  ∃ w' requests, Concludes q b w w' ∧ w.Records w' requests ∧ r ∈ requests

/-- What is on record has been asked for on an errand that the purpose and the provider have. -/
theorem Posts.exists_errand (posts : Posts q b w r) :
    ∃ route o text b₁ w₁ errand, Admitted q b w route o text b₁ w₁ ∧
      errand ∈ q.purpose.pages o ++ route.connector.provider.budget ∧
      route.connector.Makes text o errand r := by
  obtain ⟨w', requests, concludes, recorded, mem⟩ := posts
  cases concludes.spends with
  | nothing idle =>
    have none : w.Records w' [] := ⟨[], by rw [idle, List.append_nil], rfl⟩
    rw [recorded.unique none] at mem
    cases mem
  | @within route o text b₁ w₁ admitted within =>
    obtain ⟨requests', affords, recorded'⟩ := within
    rw [recorded.unique recorded'] at mem
    obtain ⟨errand, owed, made⟩ := affords.exists_errand mem
    exact ⟨route, o, text, b₁, w₁, errand, admitted, owed, made⟩

/-- A plain provider is sent the payload that its connector makes of the options. All that may go
out besides are requests for the pages that an agent is to read. -/
theorem Posts.exists_payload (posts : Posts q b w r) {route : Route} {b₁ : Broker}
    (gate : b.gate q.purpose q.caller = (.ok route, b₁))
    (plain : route.connector.provider ∈ plainProviders) :
    q.purpose = .agent ∧ r.body = .empty ∨
      ∃ o text p, q.purpose.sanitize (w.names w.drawn) q.raw = .ok o ∧
        route.connector.payload? text o = some (.ok p) ∧ r.body = p.body := by
  obtain ⟨route', o, text, b', w₁, errand, admitted, owed, made⟩ := posts.exists_errand
  cases admitted.gate.symm.trans gate
  have budget : route.connector.provider.budget = [.answer] := by
    revert plain
    cases route.connector.provider <;> decide
  rw [budget, List.mem_append, List.mem_singleton] at owed
  rcases owed with page | rfl
  · unfold Purpose.pages at page
    split at page
    next agent =>
      obtain ⟨url, -, rfl⟩ := List.mem_map.1 page
      cases made with
      | page asked => exact .inl ⟨agent, Http.body_of_page asked⟩
    · cases page
  · cases made with
    | answer yields asked =>
      cases yields with
      | direct payload =>
        exact .inr ⟨o, text, _, admitted.sanitized, payload, Http.body_of_request? asked⟩
      | found store => rw [store] at plain; exact absurd plain (by decide)

end Broker

end PromptBroker
