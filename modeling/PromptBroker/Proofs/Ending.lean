import PromptBroker.Proofs.Submission

/-!
# How calls end

A call may take several turns of the peer, because redirects are followed. It ends with
the first turn that does not redirect it (`Ends`), and what is made of a call depends on
nothing else: on the status and the body if that turn is a complete answer, and on the
mere lack of one if the connection was closed, time ran out or the body broke off
(`submit_of_ends`).

Some calls end without such a turn, because no peer can be reached or because there is
one redirect too many. Every call ends in one of these ways (`exists_ends`).
-/

namespace PromptBroker.Http

/-- What a client has of an answer that arrives whole. -/
structure Heard where
  status : UInt16
  body : ByteArray

/-- The complete answer of a turn, if it is one. Where a status forbids a body, there is none to
break off. -/
def Turn.heard? : Turn → Option Heard
  | .reply r => some ⟨r.status, if Status.isBodiless r.status then .empty else r.body⟩
  | .truncated r => if Status.isBodiless r.status then some ⟨r.status, .empty⟩ else none
  | .close | .silence => none

/-- Whether a request can be sent to the peer. -/
def Peer.isReached (p : Peer) (q : Request) : Bool := q.url.isHttp && p.listensTo q.url

/-- The turn with which a request ends when that many redirects are followed, if there is one. -/
inductive Ends : Nat → Request → Peer → Option Turn → Prop
  /-- Nobody can be asked. -/
  | unreached {budget q p} (unreached : p.isReached q = false) : Ends budget q p none
  /-- The next turn does not redirect the request. -/
  | last {budget q p} (reached : p.isReached q = true)
      (stays : ∀ r whole, p.next.1.reply? = some (r, whole) → q.redirected? r = none) :
      Ends budget q p (some p.next.1)
  /-- The next turn redirects it. -/
  | redirected {budget q p r whole next t} (reached : p.isReached q = true)
      (turn : p.next.1.reply? = some (r, whole)) (moves : q.redirected? r = some next)
      (rest : Ends budget next p.next.2 t) : Ends (budget + 1) q p t
  /-- The next turn redirects it once too often. -/
  | endless {q p r whole next} (reached : p.isReached q = true)
      (turn : p.next.1.reply? = some (r, whole)) (moves : q.redirected? r = some next) :
      Ends 0 q p none

/-- The complete answer that a call has got, if it has. -/
def heard? : Except CallError Answer → Option Heard
  | .ok ⟨status, _, some body⟩ => some ⟨status, body⟩
  | .ok ⟨_, _, none⟩ | .error _ => none

variable {budget : Nat} {q : Request} {p : Peer} {t : Option Turn}

theorem heard?_answer {turn : Turn} {r : Reply} {whole : Bool}
    (h : turn.reply? = some (r, whole)) : heard? (.ok (r.answer whole)) = turn.heard? := by
  cases turn <;> cases h <;> unfold Reply.answer Turn.heard? <;> dsimp only <;> split <;> rfl

theorem heard?_of_no_reply {turn : Turn} (h : turn.reply? = none) : turn.heard? = none := by
  cases turn <;> first | rfl | cases h

/-- A request with redirects still to follow, sent to a peer that can be reached. -/
theorem follow_of_reached (reached : p.isReached q = true) (budget : Nat) (hops : List Request) :
    (follow budget q hops p).1 =
      match p.next.1.reply? with
      | none => .error (.unanswered q.url p.next.1.isSilence)
      | some (r, whole) =>
        match q.redirected? r, budget with
        | none, _ => .ok (r.answer whole)
        | some _, 0 => .error (.tooManyRedirects q.url)
        | some next, budget + 1 =>
          (follow budget next (hops ++ [{ q with url := q.url.asSent }]) p.next.2).1 := by
  obtain ⟨http, listens⟩ := Bool.and_eq_true_iff.1 reached
  rw [follow]
  simp only [http, listens, Bool.not_true, Bool.false_eq_true, if_false]
  cases p.next.1.reply? with
  | none => rfl
  | some s =>
    obtain ⟨r, whole⟩ := s
    dsimp only
    cases q.redirected? r with
    | none => rfl
    | some next => cases budget <;> rfl

/-- What a call has got is the answer of the turn with which it ends. -/
theorem Ends.heard?_follow (h : Ends budget q p t) (hops : List Request) :
    heard? (follow budget q hops p).1 = t.bind Turn.heard? := by
  induction h generalizing hops with
  | @unreached budget q p unreached =>
    rw [follow]
    cases http : q.url.isHttp with
    | false => rfl
    | true =>
      have away : p.listensTo q.url = false := by
        simpa [Peer.isReached, http] using unreached
      simp only [away, Bool.not_true, Bool.not_false, Bool.false_eq_true, if_false, if_true]
      rfl
  | @last budget q p reached stays =>
    rw [follow_of_reached reached, Option.bind_some]
    cases turn : p.next.1.reply? with
    | none => exact (heard?_of_no_reply turn).symm
    | some s =>
      obtain ⟨r, whole⟩ := s
      simp only [stays r whole turn]
      exact heard?_answer turn
  | redirected reached turn moves _ ih =>
    rw [follow_of_reached reached, turn]
    simp only [moves]
    exact ih _
  | endless reached turn moves =>
    rw [follow_of_reached reached, turn]
    simp only [moves]
    rfl

theorem stays_or_moves (q : Request) (turn : Turn) :
    (∀ r whole, turn.reply? = some (r, whole) → q.redirected? r = none) ∨
      ∃ r whole next, turn.reply? = some (r, whole) ∧ q.redirected? r = some next := by
  cases reply : turn.reply? with
  | none => exact .inl nofun
  | some s =>
    cases moves : q.redirected? s.1 with
    | none => exact .inl fun r whole same => by cases same; exact moves
    | some next => exact .inr ⟨s.1, s.2, next, rfl, moves⟩

/-- Every call ends somehow. -/
theorem exists_ends (budget : Nat) (q : Request) (p : Peer) : ∃ t, Ends budget q p t := by
  induction budget generalizing q p with
  | zero =>
    cases reached : p.isReached q with
    | false => exact ⟨_, .unreached reached⟩
    | true =>
      rcases stays_or_moves q p.next.1 with stays | ⟨r, whole, next, turn, moves⟩
      · exact ⟨_, .last reached stays⟩
      · exact ⟨_, .endless reached turn moves⟩
  | succ budget ih =>
    cases reached : p.isReached q with
    | false => exact ⟨_, .unreached reached⟩
    | true =>
      rcases stays_or_moves q p.next.1 with stays | ⟨r, whole, next, turn, moves⟩
      · exact ⟨_, .last reached stays⟩
      · obtain ⟨t, rest⟩ := ih next p.next.2
        exact ⟨t, .redirected reached turn moves rest⟩

/-! ### Deliveries -/

/-- What a submission returns for what the client has heard. -/
inductive Delivers : Option Heard → Delivery → Prop
  /-- No complete answer. -/
  | nothing {message details} : Delivers none (.failure 0 message details none)
  /-- An answer with an error status. -/
  | error {answer message details} (status : Status.isSuccess answer.status = false) :
      Delivers (some answer)
        (.failure answer.status message details (some (Text.Utf8.decodeLossy answer.body)))
  /-- An answer with a success status. -/
  | success {answer} (status : Status.isSuccess answer.status = true) :
      Delivers (some answer) (.success answer.status answer.body)

/-- A success is what has been heard. -/
theorem Delivers.heard_eq {heard : Option Heard} {status : UInt16} {body : ByteArray}
    (h : Delivers heard (.success status body)) : heard = some ⟨status, body⟩ := by
  cases h
  rfl

/-- An answer with a success status is delivered as it is. -/
theorem Delivers.eq_success {answer : Heard} {d : Delivery} (h : Delivers (some answer) d)
    (accepted : Status.isSuccess answer.status = true) :
    d = .success answer.status answer.body := by
  cases h with
  | error refused => cases accepted.symm.trans refused
  | success => rfl

theorem delivers_ofCall (a : Except CallError Answer) :
    Delivers (heard? a) (Delivery.ofCall a) := by
  rcases a with e | ⟨status, headers, body⟩
  · exact .nothing
  · cases body with
    | none => exact .nothing
    | some body =>
      have delivered : Delivery.ofCall (.ok ⟨status, headers, some body⟩) =
          if Status.isSuccess status then .success status body
          else Delivery.ofErrorAnswer status headers body := rfl
      rw [delivered]
      split
      · next success => exact @Delivers.success ⟨status, body⟩ success
      · next error =>
        exact @Delivers.error ⟨status, body⟩ _ _ (Bool.eq_false_iff.2 error)

variable {w : World} {payload : Payload} {headers : Headers}

/-- A payload that can be sent is delivered by what is heard at the end of the call. -/
theorem submit_of_ends (sent : payload.request? headers = some q)
    (ends : Ends redirectLimit q w.peer t) :
    ∃ d w', submit payload headers w = .ok (d, w') ∧ Delivers (t.bind Turn.heard?) d := by
  obtain ⟨d, w', submitted⟩ := returns_submit payload headers w
  refine ⟨d, w', submitted, ?_⟩
  unfold Payload.request? at sent
  rcases submit_eq_ok submitted with ⟨defect, -⟩ | ⟨sendable, a, rfl, called⟩
  · rw [defect] at sent
    cases sent
  rw [sendable] at sent
  obtain ⟨url, parsed, sent⟩ := Option.bind_eq_some_iff.1 sent
  split at sent
  · next callable =>
    cases sent
    obtain ⟨rfl, -⟩ := Run.call_eq_ok.1 called
    have answer : (call payload.method payload.url (payload.body.sentHeaders headers)
        payload.body w.peer).1 = (follow redirectLimit (Request.make payload.method url
          (payload.body.sentHeaders headers) payload.body) [] w.peer).1 := by
      unfold call
      rw [parsed]
      simp only [callable, Bool.not_true, Bool.false_eq_true, if_false]
    rw [answer, ← ends.heard?_follow []]
    exact delivers_ofCall _
  · cases sent

/-! ### What is heard of a submission -/

/-- What is heard of a payload that is submitted. -/
inductive Hears (payload : Payload) (headers : Headers) (w : World) : Option Heard → Prop
  /-- It cannot be sent, and nobody answers. -/
  | unsent (unsent : payload.request? headers = none) : Hears payload headers w none
  /-- It is sent, and the call ends. -/
  | sent {request turn} (sent : payload.request? headers = some request)
      (ends : Ends redirectLimit request w.peer turn) :
      Hears payload headers w (turn.bind Turn.heard?)

/-- Nothing is heard of what has not been sent. -/
theorem Hears.isSome_request? {answer : Heard} (h : Hears payload headers w (some answer)) :
    (payload.request? headers).isSome := by
  generalize same : some answer = heard at h
  cases h with
  | unsent => cases same
  | sent sent => rw [sent]; rfl

theorem exists_hears (payload : Payload) (headers : Headers) (w : World) :
    ∃ heard, Hears payload headers w heard := by
  cases sent : payload.request? headers with
  | none => exact ⟨none, .unsent sent⟩
  | some q =>
    obtain ⟨t, ends⟩ := exists_ends redirectLimit q w.peer
    exact ⟨_, .sent sent ends⟩

theorem delivers_of_unsent {d : Delivery} {w' : World} (unsent : payload.request? headers = none)
    (submitted : submit payload headers w = .ok (d, w')) : Delivers none d := by
  unfold Payload.request? at unsent
  rcases submit_eq_ok submitted with ⟨defect, -⟩ | ⟨sendable, a, rfl, called⟩
  · unfold Body.defect? at defect
    split at defect
    · split at defect
      · cases defect
      · cases defect
        exact .nothing
    · cases defect
  · rw [sendable] at unsent
    cases a with
    | error e => exact .nothing
    | ok a =>
      have asked := isSome_request?_of_answer called
      dsimp only at unsent
      rw [unsent] at asked
      cases asked

/-- A submission returns what is heard of it. -/
theorem Hears.delivers {heard : Option Heard} {d : Delivery} {w' : World}
    (h : Hears payload headers w heard) (submitted : submit payload headers w = .ok (d, w')) :
    Delivers heard d := by
  cases h with
  | unsent unsent => exact delivers_of_unsent unsent submitted
  | sent sent ends =>
    obtain ⟨d', w'', submitted', delivers⟩ := submit_of_ends sent ends
    cases submitted.symm.trans submitted'
    exact delivers

/-- What is delivered as a success has been heard. -/
theorem hears_of_submit {status : UInt16} {body : ByteArray} {w' : World}
    (submitted : submit payload headers w = .ok (.success status body, w')) :
    Hears payload headers w (some ⟨status, body⟩) := by
  obtain ⟨heard, hears⟩ := exists_hears payload headers w
  rw [(hears.delivers submitted).heard_eq] at hears
  exact hears

/-- The status and the body of a success. -/
def success? : Delivery → Option (UInt16 × ByteArray)
  | .success status body => some (status, body)
  | .failure .. => none

/-- A submission that is seen to succeed has delivered what it is seen to. -/
theorem submit_of_success? {status : UInt16} {body : ByteArray}
    (seen : (submit payload headers w).toOption.bind (fun s => success? s.1) =
      some (status, body)) : ∃ w', submit payload headers w = .ok (.success status body, w') := by
  obtain ⟨d, w', submitted⟩ := returns_submit payload headers w
  rw [submitted] at seen
  cases d with
  | success status' body' =>
    obtain ⟨rfl, rfl⟩ := Prod.mk.inj (Option.some.inj seen)
    exact ⟨w', submitted⟩
  | failure => cases seen

end PromptBroker.Http
