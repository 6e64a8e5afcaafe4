import PromptBroker.Proofs.Submission

/-!
# Setting up a vector store

A connector to a vector store knows whether its backend is set up, and a flag outside
the process says whether a setup has failed before. Every request begins with an attempt
to see to the backend, and that may change both.

`Setup` lists the ways an attempt can go, with what was asked of the backend and what
came of it. An attempt always returns (`returns_ensure`), and goes one of these ways
(`setup_of_ensure`), so that what is to be known about a single attempt can be read off
seven cases.
-/

namespace PromptBroker.VectorStore

open Http (Payload)

/-! ### What is asked of the backend -/

/-- What is asked of the backend, in order, each with what comes of it. -/
inductive Asks (i : Instance) : World → List (Payload × Delivery) → World → Prop
  | nothing {w} : Asks i w [] w
  | more {w h p d w₁ asked w'} (signed : headers i = .ok h)
      (submitted : Http.submit p h w = .ok (d, w₁)) (others : Asks i w₁ asked w') :
      Asks i w ((p, d) :: asked) w'

/-- The requests that this puts on record. -/
def requests (i : Instance) (asked : List (Payload × Delivery)) : List Http.Request :=
  match headers i with
  | .error _ => []
  | .ok h => asked.flatMap fun q => (q.1.request? h).toList

/-! ### One attempt -/

/-- The ways in which an attempt to see to the backend can go: what is asked, what comes of it,
and state and flag as they are afterwards. -/
inductive Setup (i : Instance) (state : BackendState) : SetupStatus → World →
    List (Payload × Delivery) → Outcome Unit → BackendState → SetupStatus → World → Prop
  /-- A failure is remembered outside. -/
  | latched {code w} :
      Setup i state (.failed code) w []
        (.error (.initializationFailed flagKey (latchedReason code)))
        (.failed (latchedReason code)) (.failed code) w
  /-- Everything has been seen to before. -/
  | standing {w} (ready : state = .ready) : Setup i state .ok w [] (.ok ()) .ready .ok w
  /-- There are no headers to ask with. -/
  | unsigned {f w} (unready : state ≠ .ready) (unsigned : headers i = .error f) :
      Setup i state .ok w [] (.error f) .uninitialized .ok w
  /-- The list of collections is not to be had. -/
  | unlisted {d f w w₁} (unready : state ≠ .ready) (asks : Asks i w [(listing i, d)] w₁)
      (unread : readListing d = .error f) :
      Setup i state .ok w [(listing i, d)] (.error f) .uninitialized .ok w₁
  /-- The collection is there. -/
  | present {d v w w₁} (unready : state ≠ .ready) (asks : Asks i w [(listing i, d)] w₁)
      (read : readListing d = .ok v) (named : lists (collection i) v = true) :
      Setup i state .ok w [(listing i, d)] (.ok ()) .ready .ok w₁
  /-- The collection was missing and has been created. -/
  | created {d v d₁ w w₁} (unready : state ≠ .ready)
      (asks : Asks i w [(listing i, d), (creation i, d₁)] w₁)
      (read : readListing d = .ok v) (missing : lists (collection i) v = false)
      (done : created i d₁ = .ok ()) :
      Setup i state .ok w [(listing i, d), (creation i, d₁)] (.ok ()) .ready .ok w₁
  /-- The collection was missing and could not be created. -/
  | rejected {d v d₁ f w w₁} (unready : state ≠ .ready)
      (asks : Asks i w [(listing i, d), (creation i, d₁)] w₁)
      (read : readListing d = .ok v) (missing : lists (collection i) v = false)
      (refused : VectorStore.created i d₁ = .error (.rejected f)) :
      Setup i state .ok w [(listing i, d), (creation i, d₁)]
        (.error (.initializationFailed flagKey f.message)) (.failed f.message) creationFailed w₁

variable {i : Instance} {state state' : BackendState} {flag flag' : SetupStatus}
  {outcome : Outcome Unit} {w w₁ w' : World} {asked : List (Payload × Delivery)}

/-! ### Submissions -/

theorem Asks.records (h : Asks i w asked w') : w.Records w' (requests i asked) := by
  induction h with
  | @nothing w =>
    unfold requests
    split <;> exact .refl w
  | more signed submitted others ih =>
    unfold requests at ih ⊢
    rw [signed] at ih ⊢
    exact (Http.records_submit submitted).trans ih

/-- Only an answer with a success status counts as one. -/
theorem Asks.isSuccess (h : Asks i w asked w') {p : Payload} {status : UInt16} {body : ByteArray}
    (answered : (p, .success status body) ∈ asked) : Http.Status.isSuccess status = true := by
  induction h with
  | nothing => cases answered
  | more signed submitted others ih =>
    rcases List.mem_cons.1 answered with same | answered
    · cases same
      exact (Http.answered_of_submit submitted).1
    · exact ih answered

theorem listing_ne_creation (i : Instance) : listing i ≠ creation i := fun same =>
  nomatch congrArg Payload.method same

/-- The list of collections can only be read from a success. -/
theorem readListing_eq_ok {d : Delivery} {v : Json} (h : readListing d = .ok v) :
    ∃ status body, d = .success status body ∧ Json.readBytes body = .ok v := by
  unfold readListing at h
  split at h
  · cases h
  · next status body =>
    split at h
    · next read => exact ⟨status, body, rfl, read.trans (congrArg _ (Except.ok.inj h))⟩
    · cases h

theorem created_eq_ok {d : Delivery} :
    created i d = .ok () ↔ ∃ status body, d = .success status body := by
  cases d <;> simp [created]

/-! ### The ways of an attempt -/

/-- What is asked decides how the attempt goes, once it has come to asking. -/
theorem setup_of_createIfMissing {result : Except SetupFault Unit} (unready : state ≠ .ready)
    (tried : createIfMissing i w = .ok (result, w')) :
    ∃ asked, Setup i state .ok w asked (settle .ok result).1 (settle .ok result).2.1
      (settle .ok result).2.2 w' := by
  unfold createIfMissing at tried
  cases signed : headers i with
  | error f =>
    rw [signed] at tried
    obtain ⟨rfl, rfl⟩ := Run.pure_eq_ok.1 tried
    exact ⟨[], .unsigned unready signed⟩
  | ok h =>
    rw [signed] at tried
    obtain ⟨d, w₁, listed, tried⟩ := Run.bind_eq_ok.1 tried
    have asks : Asks i w [(listing i, d)] w₁ := .more signed listed .nothing
    cases read : readListing d with
    | error f =>
      rw [read] at tried
      obtain ⟨rfl, rfl⟩ := Run.pure_eq_ok.1 tried
      exact ⟨_, .unlisted unready asks read⟩
    | ok v =>
      rw [read] at tried
      dsimp only at tried
      cases named : lists (collection i) v with
      | true =>
        rw [named] at tried
        obtain ⟨rfl, rfl⟩ := Run.pure_eq_ok.1 tried
        exact ⟨_, .present unready asks read named⟩
      | false =>
        rw [named] at tried
        obtain ⟨d', w₂, submitted, tried⟩ := Run.bind_eq_ok.1 tried
        obtain ⟨rfl, rfl⟩ := Run.pure_eq_ok.1 tried
        have asks : Asks i w [(listing i, d), (creation i, d')] w₂ :=
          .more signed listed (.more signed submitted .nothing)
        cases d' with
        | success status body => exact ⟨_, .created unready asks read named rfl⟩
        | failure code message details body => exact ⟨_, .rejected unready asks read named rfl⟩

theorem setup_of_ensure (h : ensure i state flag w = .ok ((outcome, state', flag'), w')) :
    ∃ asked, Setup i state flag w asked outcome state' flag' w' := by
  unfold ensure at h
  cases flag with
  | failed code =>
    obtain ⟨⟨⟩, rfl⟩ := Run.pure_eq_ok.1 h
    exact ⟨[], .latched⟩
  | ok =>
    dsimp only at h
    by_cases ready : state = .ready
    · rw [if_pos ready] at h
      obtain ⟨⟨⟩, rfl⟩ := Run.pure_eq_ok.1 h
      exact ⟨[], .standing ready⟩
    · rw [if_neg ready] at h
      obtain ⟨result, tried, settled⟩ := Run.map_eq_ok.1 h
      have setup := setup_of_createIfMissing ready tried
      rwa [settled] at setup

/-- An attempt always returns. -/
theorem returns_ensure (i : Instance) (state : BackendState) (flag : SetupStatus) :
    (ensure i state flag).Returns := by
  have returns_createIfMissing : (createIfMissing i).Returns := by
    unfold createIfMissing
    split
    · exact Run.returns_pure _
    · refine (Http.returns_submit _ _).bind fun d => ?_
      split
      · exact Run.returns_pure _
      · split
        · exact Run.returns_pure _
        · exact (Http.returns_submit _ _).bind fun d => Run.returns_pure _
  unfold ensure
  split
  · exact Run.returns_pure _
  · split
    · exact Run.returns_pure _
    · exact returns_createIfMissing.map _

/-! ### What the ways have in common -/

/-- What comes of asking shows the collection: it is listed, or it has been created. -/
def Confirmed (i : Instance) (asked : List (Payload × Delivery)) : Prop :=
  (∃ status body v, (listing i, .success status body) ∈ asked ∧
    Http.Status.isSuccess status = true ∧ Json.readBytes body = .ok v ∧
      lists (collection i) v = true) ∨
  ∃ status body, (creation i, .success status body) ∈ asked ∧
    Http.Status.isSuccess status = true

namespace Setup

variable (h : Setup i state flag w asked outcome state' flag' w')

include h

theorem asks : Asks i w asked w' := by
  cases h with
  | latched | standing | unsigned => exact .nothing
  | unlisted _ asks | present _ asks | created _ asks | rejected _ asks => exact asks

theorem ne_initializing : state' ≠ .initializing := by
  cases h <;> exact nofun

theorem ok_iff : outcome = .ok () ↔ state' = .ready := by
  cases h with
  | standing | present | created => exact iff_of_true rfl rfl
  | latched | unsigned | unlisted | rejected => exact iff_of_false nofun nofun

theorem state_of_error {f : Failure} (failed : outcome = .error f) :
    state' = .uninitialized ∨ ∃ reason, state' = .failed reason := by
  cases h with
  | standing | present | created => cases failed
  | unsigned | unlisted => exact .inl rfl
  | latched | rejected => exact .inr ⟨_, rfl⟩

theorem of_latched {code : UInt32} (latched : flag = .failed code) :
    asked = [] ∧ w' = w ∧ flag' = flag ∧ state' = .failed (latchedReason code) ∧
      outcome = .error (.initializationFailed flagKey (latchedReason code)) := by
  cases latched
  cases h
  exact ⟨rfl, rfl, rfl, rfl, rfl⟩

theorem of_standing (ready : state = .ready) (sound : flag = .ok) :
    asked = [] ∧ w' = w ∧ flag' = flag ∧ state' = .ready := by
  cases sound
  cases h with
  | standing => exact ⟨rfl, rfl, rfl, rfl⟩
  | unsigned unready | unlisted unready | present unready | created unready | rejected unready =>
    exact absurd ready unready

theorem tries (unready : state ≠ .ready) (sound : flag = .ok) {fields : Http.Headers}
    (signed : headers i = .ok fields) : ∃ d others, asked = (listing i, d) :: others := by
  cases sound
  cases h with
  | standing ready => exact absurd ready unready
  | unsigned _ unsigned => rw [signed] at unsigned; cases unsigned
  | unlisted | present | created | rejected => exact ⟨_, _, rfl⟩

theorem asked_prefix : asked.map Prod.fst <+: [listing i, creation i] := by
  cases h with
  | latched | standing | unsigned => exact List.nil_prefix
  | unlisted | present => exact ⟨[creation i], rfl⟩
  | created | rejected => exact List.prefix_refl _

/-- A list of collections that is not to be had leaves everything as it was. -/
theorem of_unlisted {d : Delivery} {f : Failure} (listed : (listing i, d) ∈ asked)
    (unread : readListing d = .error f) :
    asked = [(listing i, d)] ∧ flag' = flag ∧ state' = .uninitialized ∧ outcome = .error f := by
  have first {d₀ d₁ : Delivery} (listed : (listing i, d) ∈ [(listing i, d₀), (creation i, d₁)]) :
      d = d₀ := by
    rcases List.mem_cons.1 listed with same | listed
    · exact congrArg Prod.snd same
    · exact absurd (congrArg Prod.fst (List.mem_singleton.1 listed)) (listing_ne_creation i)
  cases h with
  | latched | standing | unsigned => cases listed
  | unlisted _ _ unread' =>
    cases List.mem_singleton.1 listed
    cases unread.symm.trans unread'
    exact ⟨rfl, rfl, rfl, rfl⟩
  | present _ _ read =>
    cases List.mem_singleton.1 listed
    cases unread.symm.trans read
  | created _ _ read | rejected _ _ read =>
    cases first listed
    cases unread.symm.trans read

/-- The collection is created only after a list that does not name it. -/
theorem of_creation {d : Delivery} {earlier later : List (Payload × Delivery)}
    (submitted : asked = earlier ++ (creation i, d) :: later) :
    ∃ status body v, earlier = [(listing i, .success status body)] ∧
      Http.Status.isSuccess status = true ∧ Json.readBytes body = .ok v ∧
        lists (collection i) v = false := by
  obtain ⟨rest, whole⟩ := h.asked_prefix
  rw [submitted, List.map_append, List.map_cons, List.append_assoc] at whole
  -- Of the two payloads that may be asked, the creation is the second.
  have place : ∃ d₀, earlier = [(listing i, d₀)] ∧ later = [] := by
    rcases earlier with _ | ⟨⟨p, d₀⟩, _ | ⟨q, earlier⟩⟩
    · exact absurd (List.cons.inj whole).1.symm (listing_ne_creation i)
    · obtain ⟨first, whole⟩ := List.cons.inj whole
      obtain ⟨none, -⟩ := List.append_eq_nil_iff.1 (List.cons.inj whole).2
      cases first
      exact ⟨d₀, rfl, List.map_eq_nil_iff.1 none⟩
    · have := congrArg List.length whole
      simp at this
  obtain ⟨d₀, rfl, rfl⟩ := place
  cases submitted
  have asks := h.asks
  have listed {v : Json} (read : readListing d₀ = .ok v) : ∃ status body,
      d₀ = .success status body ∧ Http.Status.isSuccess status = true ∧
        Json.readBytes body = .ok v := by
    obtain ⟨status, body, rfl, readable⟩ := readListing_eq_ok read
    exact ⟨status, body, rfl, asks.isSuccess List.mem_cons_self, readable⟩
  cases h with
  | created _ _ read missing | rejected _ _ read missing =>
    obtain ⟨status, body, rfl, success, readable⟩ := listed read
    exact ⟨status, body, _, rfl, success, readable, missing⟩

theorem confirmed (unready : state ≠ .ready) (ready : state' = .ready) : Confirmed i asked := by
  have asks := h.asks
  cases h with
  | latched | unsigned | unlisted | rejected => cases ready
  | standing stands => exact absurd stands unready
  | present _ _ read named =>
    obtain ⟨status, body, rfl, readable⟩ := readListing_eq_ok read
    exact .inl ⟨status, body, _, List.mem_cons_self, asks.isSuccess List.mem_cons_self, readable,
      named⟩
  | @created d v d₁ _ _ _ _ _ _ done =>
    obtain ⟨status, body, rfl⟩ := created_eq_ok.1 done
    have last : (creation i, Delivery.success status body) ∈
        [(listing i, d), (creation i, .success status body)] :=
      List.mem_cons_of_mem _ List.mem_cons_self
    exact .inr ⟨status, body, last, asks.isSuccess last⟩

end Setup

end PromptBroker.VectorStore
