import PromptBroker.Proofs.Calls

/-!
# What a submission puts on record

A submission makes at most one call. Which request it is can be told beforehand from
the payload and the headers: `Payload.request?` gives the request that goes on record,
and none for a payload that cannot be sent. The submission always returns, and what it
returns as a success has a success status and has been asked for.
-/

namespace PromptBroker

/-- What the clock will say next. -/
def World.moment (w : World) : Moment := w.clock w.readings

/-! ### The record of calls -/

/-- These requests, in this order, have been put on record since. -/
def World.Records (w w' : World) (requests : List Http.Request) : Prop :=
  ∃ calls, w'.peer.calls = w.peer.calls ++ calls ∧ calls.map Http.Call.request = requests

variable {w w₁ w' : World} {requests requests' : List Http.Request}

theorem World.Records.refl (w : World) : w.Records w [] := ⟨[], (List.append_nil _).symm, rfl⟩

theorem World.Records.trans (h : w.Records w₁ requests) (h' : w₁.Records w' requests') :
    w.Records w' (requests ++ requests') := by
  obtain ⟨calls, more, rfl⟩ := h
  obtain ⟨calls', more', rfl⟩ := h'
  exact ⟨calls ++ calls', by rw [more', more, List.append_assoc], List.map_append⟩

/-- There is one record. -/
theorem World.Records.unique (recorded : w.Records w' requests)
    (recorded' : w.Records w' requests') : requests = requests' := by
  obtain ⟨calls, more, rfl⟩ := recorded
  obtain ⟨calls', more', rfl⟩ := recorded'
  rw [List.append_cancel_left (more.symm.trans more')]

/-- A provider on the same machine answers with these statuses and bodies, one after the other. -/
def World.answering (answers : List (UInt16 × String)) : World where
  peer := ⟨["http".toList], answers.map fun a => .reply ⟨a.1, [], a.2.toUTF8⟩, []⟩
  clock := fun _ => ⟨0⟩
  names := fun _ => Uuid.ofBytes []

namespace Http

variable {method : Method} {url : String} {headers : Headers} {body : Body} {p : Payload}
  {d : Delivery}

/-! ### Calls -/

/-- The request to an address, if the address can be called. -/
def request? (method : Method) (url : String) (headers : Headers) (body : Body) :
    Option Request :=
  (Url.parse? url).bind fun u =>
    if u.detached.isCallable then some (Request.make method u headers body) else none

theorem isSome_request? : (request? method url headers body).isSome = isCallable url := by
  unfold request? isCallable
  cases Url.parse? url with
  | none => rfl
  | some u =>
    dsimp only [Option.bind_some]
    cases u.detached.isCallable <;> rfl

theorem records_call {a : Except CallError Answer}
    (h : Run.call method url headers body w = .ok (a, w')) :
    w.Records w' (request? method url headers body).toList := by
  obtain ⟨-, rfl⟩ := Run.call_eq_ok.1 h
  unfold request? call
  cases Url.parse? url with
  | none => exact .refl w
  | some u =>
    dsimp only [Option.bind_some]
    cases u.detached.isCallable with
    | false => exact .refl w
    | true =>
      simp only [Bool.not_true, Bool.false_eq_true, if_false, if_true]
      exact ⟨[⟨_, _⟩], congrArg (· ++ [_]) (follow_calls _ _ _ _), rfl⟩

theorem returns_call (method : Method) (url : String) (headers : Headers) (body : Body) :
    (Run.call method url headers body).Returns := fun _ => ⟨_, _, rfl⟩

/-- What is answered has been asked for. -/
theorem isSome_request?_of_answer {a : Answer}
    (h : Run.call method url headers body w = .ok (.ok a, w')) :
    (request? method url headers body).isSome := by
  rw [isSome_request?]
  cases callable : isCallable url with
  | true => rfl
  | false =>
    obtain ⟨answer, -⟩ := Run.call_eq_ok.1 h
    obtain ⟨e, he⟩ := call_of_not_callable callable method headers body w.peer
    rw [he] at answer
    cases answer

/-! ### Submissions -/

/-- The request for a payload, if it can be sent. -/
def Payload.request? (p : Payload) (headers : Headers) : Option Request :=
  match p.body.defect? with
  | some _ => none
  | none => Http.request? p.method p.url (p.body.sentHeaders headers) p.body

/-- A submission does not look at the clock. -/
theorem moment_of_submit (h : submit p headers w = .ok (d, w')) : w'.moment = w.moment := by
  rcases submit_eq_ok h with ⟨-, rfl⟩ | ⟨-, a, -, called⟩
  · rfl
  · obtain ⟨-, rfl⟩ := Run.call_eq_ok.1 called
    rfl

theorem records_submit (h : submit p headers w = .ok (d, w')) :
    w.Records w' (p.request? headers).toList := by
  unfold Payload.request?
  rcases submit_eq_ok h with ⟨defect, rfl⟩ | ⟨sendable, a, -, called⟩
  · rw [defect]
    exact .refl w'
  · rw [sendable]
    exact records_call called

/-- A submission never fails by itself. -/
theorem returns_submit (p : Payload) (headers : Headers) : (submit p headers).Returns := by
  unfold submit
  split
  · exact Run.returns_pure _
  · exact (returns_call _ _ _ _).map _

/-- A success is an answer with a success status to a request that has been made. -/
theorem answered_of_submit {status : UInt16} {content : ByteArray}
    (h : submit p headers w = .ok (.success status content, w')) :
    Status.isSuccess status = true ∧ (p.request? headers).isSome := by
  unfold Payload.request?
  rcases submit_eq_ok h with ⟨defect, -⟩ | ⟨sendable, a, outcome, called⟩
  · exact absurd defect defect?_ne_success
  · rw [sendable]
    cases a with
    | error e => cases outcome
    | ok a =>
      refine ⟨?_, isSome_request?_of_answer called⟩
      unfold Delivery.ofCall Delivery.ofAnswer at outcome
      dsimp only at outcome
      split at outcome
      · cases outcome
      · split at outcome
        · next success => cases outcome; exact success
        · cases outcome

end Http

end PromptBroker
