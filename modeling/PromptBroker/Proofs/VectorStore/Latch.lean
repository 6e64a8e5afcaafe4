import PromptBroker.Proofs.Ending
import PromptBroker.Proofs.Request.Gate
import PromptBroker.Proofs.Request.Upkeep
import PromptBroker.Proofs.VectorStore.Tenure

/-!
# Why the setup flag is set

A backend that refuses to create its collection is to be left alone until an operator
clears the flag, and one that cannot be reached is to be tried again by the next request.
`Latches` says so in terms of what is heard of the backend (`Inquiry`): a complete answer,
or nothing.

So it happens, but for one case. A creation of which nothing is heard is taken for a
refusal, and the flag is set although nobody has answered (`latches_iff`). The same holds
of every request in a run (`latching_of_serveAll`).
-/

namespace PromptBroker.VectorStore

open Http (Payload Heard Hears Delivers)

/-! ### What is heard of a backend -/

/-- Something that the backend is asked, with what is heard of it and what is made of that. -/
structure Inquiry where
  payload : Payload
  heard : Option Heard
  delivery : Delivery

/-- What was asked, with what came of it. -/
def Inquiry.asked (e : Inquiry) : Payload × Delivery := (e.payload, e.delivery)

/-- Inquiries made one after the other. -/
inductive Inquires (i : Instance) : World → List Inquiry → World → Prop
  | nothing {w} : Inquires i w [] w
  | more {w fields e w₁ rest w'} (signed : headers i = .ok fields)
      (hears : Hears e.payload fields w e.heard)
      (submitted : Http.submit e.payload fields w = .ok (e.delivery, w₁))
      (others : Inquires i w₁ rest w') : Inquires i w (e :: rest) w'

variable {i : Instance} {e : Inquiry} {es : List Inquiry} {w w' : World}

/-- Of everything that is asked something is heard, or nothing. -/
theorem Asks.exists_inquires {asked : List (Payload × Delivery)} (h : Asks i w asked w') :
    ∃ es, Inquires i w es w' ∧ es.map Inquiry.asked = asked := by
  induction h with
  | nothing => exact ⟨[], .nothing, rfl⟩
  | @more w fields p d w₁ asked w' signed submitted others ih =>
    obtain ⟨es, inquires, rfl⟩ := ih
    obtain ⟨heard, hears⟩ := Http.exists_hears p fields w
    exact ⟨⟨p, heard, d⟩ :: es, .more signed hears submitted inquires, rfl⟩

theorem Inquires.delivers (h : Inquires i w es w') (he : e ∈ es) :
    Delivers e.heard e.delivery := by
  induction h with
  | nothing => cases he
  | more _ hears submitted _ ih =>
    rcases List.mem_cons.1 he with rfl | he
    · exact hears.delivers submitted
    · exact ih he

theorem Inquires.signed (h : Inquires i w es w') (he : e ∈ es) :
    ∃ fields, headers i = .ok fields := by
  cases h with
  | nothing => cases he
  | more signed => exact ⟨_, signed⟩

/-- A failure of which something has been heard is an answer with an error status. -/
theorem refused_of_failure {heard : Option Heard} {code : UInt16} {message details : String}
    {body : Option String} (h : Delivers heard (.failure code message details body))
    (answered : heard ≠ none) :
    ∃ answer, heard = some answer ∧ Http.Status.isSuccess answer.status = false := by
  cases h with
  | nothing => exact absurd rfl answered
  | error status => exact ⟨_, rfl, status⟩

/-! ### What an attempt does to the flags -/

/-- The flags say what has been written. -/
theorem Situation.status_written (s : Situation) (flag : SetupStatus) :
    (s.written flag).status flagKey = flag := by
  unfold Situation.written Broker.updateFlag
  split
  · next same => exact same.symm
  · simp [Flags.status, Flags.setStatus, Keyed.get?_insert_self]

namespace Attempt

/-- The attempt goes one of the ways that there are, with these inquiries on the way. -/
structure Goes (i : Instance) (a : Attempt) (es : List Inquiry) : Prop where
  setup : ∃ flag, Setup i a.before.state a.before.flag a.before.world (es.map Inquiry.asked)
    a.outcome a.after.state flag a.after.world ∧ a.after.flags = a.before.written flag
  inquires : Inquires i a.before.world es a.after.world

variable {a : Attempt}

theorem Made.exists_goes (made : a.Made i) : ∃ es, a.Goes i es := by
  obtain ⟨flag, ensured, written⟩ := made
  obtain ⟨asked, setup⟩ := setup_of_ensure ensured
  obtain ⟨es, inquires, rfl⟩ := setup.asks.exists_inquires
  exact ⟨es, ⟨flag, setup, written⟩, inquires⟩

/-- An attempt begins with the list, unless the backend is ready or given up. -/
theorem Goes.tries (h : a.Goes i es) (unready : a.before.state ≠ .ready)
    (sound : a.before.flag = .ok) {fields : Http.Headers} (signed : headers i = .ok fields) :
    ∃ e others, es = e :: others ∧ e.payload = listing i := by
  obtain ⟨flag, setup, -⟩ := h.setup
  obtain ⟨d, others, asked⟩ := setup.tries unready sound signed
  obtain ⟨e, rest, rfl, first, -⟩ := List.map_eq_cons_iff.1 asked
  exact ⟨e, rest, rfl, congrArg Prod.fst first⟩

/-- What an attempt does to the flags. -/
inductive Marks (i : Instance) (a : Attempt) (es : List Inquiry) : Prop
  /-- Whatever was asked was answered, and the flags stay. -/
  | kept (flags : a.after.flags = a.before.flags) (heard : ∀ e ∈ es, e.heard ≠ none)
  /-- The list was not to be had: the flags stay, and nothing is settled. -/
  | left (flags : a.after.flags = a.before.flags) (sound : a.before.flag = .ok)
      (state : a.after.state = .uninitialized) (payload : ∀ e ∈ es, e.payload = listing i)
  /-- The list was there, but the collection was not created, and the flag is set. -/
  | set {listed created code message details body} (sound : a.before.flag = .ok)
      (flag : a.after.flag = creationFailed) (inquiries : es = [listed, created])
      (heard : listed.heard ≠ none) (payload : created.payload = creation i)
      (failed : created.delivery = .failure code message details body)

theorem Goes.marks (h : a.Goes i es) : a.Marks i es := by
  obtain ⟨⟨flag', setup, written⟩, inquires⟩ := h
  have stays (same : flag' = a.before.flag) : a.after.flags = a.before.flags := by
    rw [written, same, Situation.written_flag]
  have read {e : Inquiry} {v : Json} (he : e ∈ es) (read : readListing e.delivery = .ok v) :
      e.heard ≠ none := by
    obtain ⟨status, body, success, -⟩ := readListing_eq_ok read
    have delivers := inquires.delivers he
    rw [success] at delivers
    rw [delivers.heard_eq]
    exact Option.some_ne_none _
  generalize before : a.before.flag = flag at setup stays
  generalize asks : es.map Inquiry.asked = asked at setup
  generalize after : a.after.state = state at setup
  generalize a.outcome = outcome at setup
  generalize a.after.world = w' at setup
  cases setup with
  | latched | standing | unsigned =>
    obtain rfl := List.map_eq_nil_iff.1 asks
    exact .kept (stays rfl) (List.forall_mem_nil _)
  | unlisted =>
    obtain ⟨⟨p, heard, d⟩, rfl, asked⟩ := List.map_eq_singleton_iff.1 asks
    cases asked
    exact .left (stays rfl) before after (List.forall_mem_singleton.2 rfl)
  | present unready asks' readable =>
    obtain ⟨⟨p, heard, d⟩, rfl, asked⟩ := List.map_eq_singleton_iff.1 asks
    cases asked
    exact .kept (stays rfl) (List.forall_mem_singleton.2 (read List.mem_cons_self readable))
  | created unready asks' readable missing done =>
    obtain ⟨⟨p, heard, d⟩, rest, rfl, asked, others⟩ := List.map_eq_cons_iff.1 asks
    obtain ⟨⟨p', heard', d'⟩, rfl, asked'⟩ := List.map_eq_singleton_iff.1 others
    cases asked
    cases asked'
    obtain ⟨status, body, rfl⟩ := created_eq_ok.1 done
    have first : heard ≠ none := read List.mem_cons_self readable
    have second : heard' = some ⟨status, body⟩ :=
      (inquires.delivers (List.mem_cons_of_mem _ List.mem_cons_self)).heard_eq
    exact .kept (stays rfl)
      (List.forall_mem_cons.2 ⟨first, List.forall_mem_singleton.2 (by rw [second]; nofun)⟩)
  | rejected unready asks' readable missing refused =>
    obtain ⟨⟨p, heard, d⟩, rest, rfl, asked, others⟩ := List.map_eq_cons_iff.1 asks
    obtain ⟨⟨p', heard', d'⟩, rfl, asked'⟩ := List.map_eq_singleton_iff.1 others
    cases asked
    cases asked'
    have flag : a.after.flag = creationFailed := by
      rw [Situation.flag, written, Situation.status_written]
    cases d' with
    | success status body => cases refused
    | failure code message details body =>
      exact .set before flag rfl (read List.mem_cons_self readable) rfl rfl

/-- The flag is set for a refusal, and for nothing else. -/
structure Latches (i : Instance) (a : Attempt) (es : List Inquiry) : Prop where
  /-- When the flags change, the backend has answered the creation with an error status. -/
  refused : a.after.flags ≠ a.before.flags → ∃ e ∈ es, e.payload = creation i ∧
    ∃ answer, e.heard = some answer ∧ Http.Status.isSuccess answer.status = false
  /-- When nothing is heard of the backend, the flags stay, and nothing is settled. -/
  unheard : (∃ e ∈ es, e.heard = none) →
    a.after.flags = a.before.flags ∧ a.after.state = .uninitialized
  /-- The next attempt asks the backend again. -/
  retried : (∃ e ∈ es, e.heard = none) → ∀ a' es', Goes i a' es' →
    a'.before.state = a.after.state → a'.before.flag = a.after.flag →
    ∃ e' others, es' = e' :: others ∧ e'.payload = listing i

theorem ne_of_flag {a : Attempt} (before : a.before.flag = .ok)
    (after : a.after.flag = creationFailed) : a.after.flags ≠ a.before.flags := by
  intro same
  rw [Situation.flag, same] at after
  cases before.symm.trans after

/-- The flag is set for a refusal and for nothing else, unless nothing is heard of the creation. -/
theorem latches_iff (goes : a.Goes i es) :
    a.Latches i es ↔ ∀ e ∈ es, e.payload = creation i → e.heard ≠ none := by
  constructor
  · intro latches e he payload unheard
    obtain ⟨same, -⟩ := latches.unheard ⟨e, he, unheard⟩
    cases goes.marks with
    | kept _ heard => exact heard e he unheard
    | left _ _ _ listed => exact listing_ne_creation i ((listed e he).symm.trans payload)
    | set sound flag => exact ne_of_flag sound flag same
  · intro answered
    cases goes.marks with
    | kept flags heard =>
      have none_unheard : ¬∃ e ∈ es, e.heard = none := fun ⟨e, he, unheard⟩ => heard e he unheard
      exact ⟨fun changed => absurd flags changed, fun unheard => absurd unheard none_unheard,
        fun unheard => absurd unheard none_unheard⟩
    | left flags sound state =>
      refine ⟨fun changed => absurd flags changed, fun _ => ⟨flags, state⟩, ?_⟩
      intro ⟨e, he, _⟩ a' es' goes' same_state same_flag
      obtain ⟨fields, signed⟩ := goes.inquires.signed he
      refine goes'.tries ?_ ?_ signed
      · rw [same_state, state]
        exact nofun
      · rw [same_flag, Situation.flag, flags]
        exact sound
    | @set listed created _ _ _ _ sound flag inquiries heard payload failed =>
      subst inquiries
      have last : created ∈ [listed, created] := List.mem_cons_of_mem _ List.mem_cons_self
      have none_unheard : ¬∃ e ∈ [listed, created], e.heard = none := by
        rintro ⟨e, he, unheard⟩
        rcases List.mem_cons.1 he with rfl | he
        · exact heard unheard
        · obtain rfl := List.mem_singleton.1 he
          exact answered e last payload unheard
      refine ⟨fun _ => ⟨created, last, payload, ?_⟩, fun unheard => absurd unheard none_unheard,
        fun unheard => absurd unheard none_unheard⟩
      exact refused_of_failure (failed ▸ goes.inquires.delivers last)
        (answered created last payload)

end Attempt

/-- Why the backend counts as failed when it is gone before the collection is created. -/
def silence : String :=
  "Transport error: Creating collection 'moodle' failed: " ++
    "Request failed: error sending request for url (http://[::1]/collections/moodle)"

theorem errorBody?_of_heard {answer : Heard} {d : Delivery} (h : Delivers (some answer) d)
    (failed : d.isSuccess = false) : d.errorBody? ≠ none := by
  cases h with
  | error => exact Option.some_ne_none _
  | success => cases failed

/-- The backend lists another collection and is gone when the missing one is to be created: the
flag is set although nobody has refused anything. -/
theorem not_forall_latches :
    ¬∀ (i : Instance) (a : Attempt) (es : List Inquiry), a.Goes i es → a.Latches i es := by
  intro always
  let gone : Situation := ⟨.uninitialized, [], .answering [(200, holding ["other"])]⟩
  obtain ⟨a, before, made, -, written⟩ : ∃ a : Attempt, a.before = gone ∧ a.Made store ∧
      a.after.state = .failed silence ∧ a.after.flags = gone.written creationFailed :=
    exists_made_of_ensure (by decide +kernel)
  obtain ⟨es, goes⟩ := made.exists_goes
  have sound : a.before.flag = .ok := by rw [before]; rfl
  have flag : a.after.flag = creationFailed := by
    rw [Situation.flag, written, Situation.status_written]
  have changed := Attempt.ne_of_flag sound flag
  obtain ⟨e, he, payload, answer, heard, -⟩ := (always store a es goes).refused changed
  obtain ⟨first, others, inquiries, listed⟩ :=
    goes.tries (by rw [before]; exact nofun) sound (rfl : headers store = .ok Http.Headers.json)
  cases goes.marks with
  | kept flags | left flags => exact changed flags
  | @set first' created _ _ _ _ _ _ inquiries' _ payload' =>
    obtain ⟨rfl, rfl⟩ := List.cons.inj (inquiries.symm.trans inquiries')
    obtain rfl : e = created := by
      subst inquiries
      rcases List.mem_cons.1 he with rfl | he
      · exact absurd (listed.symm.trans payload) (listing_ne_creation store)
      · exact List.mem_singleton.1 he
    -- What the creation comes to is known, and it is no answer.
    have silent : ((Http.submit (listing store) Http.Headers.json >>= fun _ =>
        Http.submit (creation store) Http.Headers.json) gone.world).toOption.map
          (fun s => (s.1.isSuccess, s.1.errorBody?)) = some (false, none) := by
      decide +kernel
    have inquires := goes.inquires
    rw [inquiries, before] at inquires
    cases inquires with
    | more signed _ submitted rest =>
      cases rest with
      | more signed' hears' submitted' =>
        cases signed
        cases signed'
        rw [listed] at submitted
        rw [payload] at submitted'
        rw [Run.bind_of_ok submitted, submitted'] at silent
        obtain ⟨failed, nobody⟩ := Prod.mk.inj (Option.some.inj silent)
        rw [heard, payload] at hears'
        have delivers := hears'.delivers submitted'
        exact errorBody?_of_heard delivers failed nobody

end PromptBroker.VectorStore

namespace PromptBroker.Broker

open VectorStore (Attempt Inquiry Situation)

/-! ### Requests -/

/-- The request is served by no vector store, or does not get that far. -/
def Elsewhere (q : Request) (b : Broker) (w : World) : Prop :=
  ∀ route o text b' w' state, Admitted q b w route o text b' w' →
    route.connector.binding ≠ .qdrant state

/-- The request is served by the vector store of an instance, and begins with an attempt to see to
the backend, with these inquiries on the way. -/
structure SetsUp (q : Request) (b : Broker) (w : World) (b' : Broker) (i : Instance) (a : Attempt)
    (es : List Inquiry) : Prop where
  served : ∃ route o text b₁, Admitted q b w route o text b₁ a.before.world ∧
    route.connector = ⟨i, .qdrant a.before.state⟩ ∧
    -- What an attempt without success leaves is what the next request finds.
    (a.outcome ≠ .ok () → b'.connectors.get? route.name = some ⟨i, .qdrant a.after.state⟩)
  before : a.before.flags = b.flags
  goes : a.Goes i es
  after : a.after.flags = b'.flags

/-- The embedder leaves the flags alone. -/
def Embedding.Spares (E : Embedding) : Prop :=
  ∀ caller text b w nested v b' w', E caller text b w nested v b' w' → b'.flags = b.flags

variable {E : Embedding} {q : Request} {b b' b₁ b₂ : Broker} {w w' w₁ w₂ : World} {route : Route}
  {o : Options} {text : String} {nested : Option Response} {r : Response} {c : Connector}
  {p : Outcome Http.Payload}

theorem Rewired.flags_eq (h : Rewired b b') : b'.flags = b.flags := by
  obtain ⟨connectors, rfl⟩ := h
  rfl

theorem learn_flags (b : Broker) (caching : Bool) (text : String) (v : Outcome (List Float32)) :
    (b.learn caching text v).flags = b.flags := by
  unfold learn
  split
  · split <;> rfl
  · rfl

/-- Other connectors have nothing to do with the flags. -/
theorem Prepares.flags_eq (hE : E.Spares) (other : ∀ state, route.connector.binding ≠ .qdrant state)
    {caller : Caller} (h : Prepares E caller route text o b w nested p c b' w') :
    b'.flags = b.flags := by
  have planned {x : Outcome Plan} {flag : SetupStatus} {w' : World}
      (plan : route.connector.plan (b.flags.status VectorStore.flagKey) text o w =
        .ok ((x, c, flag), w')) : (b.planned route.name c flag).flags = b.flags := by
    cases Connector.plan_eq_ok.1 plan with
    | direct =>
      rw [Broker.planned, Broker.updateFlag, if_pos rfl]
      rfl
    | setUp binding => exact absurd binding (other _)
  cases h with
  | ready plan | unplanned plan => exact planned plan
  | embedded plan vector => exact (hE _ _ _ _ _ _ _ _ vector).trans (planned plan)

/-- A vector store sees to its backend before anything else. -/
theorem Prepares.exists_goes (hE : E.Spares) {state : BackendState}
    (binding : route.connector.binding = .qdrant state) {caller : Caller}
    (h : Prepares E caller route text o b w nested p c b' w') :
    ∃ (a : Attempt) (es : List Inquiry), a.before = ⟨state, b.flags, w⟩ ∧
      a.Goes route.connector.config es ∧ a.after.flags = b'.flags ∧
      (a.outcome ≠ .ok () → (∃ f, p = .error f) ∧ b'.connectors.get? route.name =
        some ⟨route.connector.config, .qdrant a.after.state⟩) := by
  have begins {x : Outcome Plan} {flag : SetupStatus} {w' : World}
      (plan : route.connector.plan (b.flags.status VectorStore.flagKey) text o w =
        .ok ((x, c, flag), w')) :
      ∃ (a : Attempt) (es : List Inquiry), a.before = ⟨state, b.flags, w⟩ ∧
        a.Goes route.connector.config es ∧
        a.after.flags = (b.planned route.name c flag).flags ∧
        (a.outcome ≠ .ok () → (∃ f, x = .error f) ∧
          (b.planned route.name c flag).connectors.get? route.name =
            some ⟨route.connector.config, .qdrant a.after.state⟩) := by
    obtain ⟨a, before, made, left, written, stops⟩ := Attempt.exists_of_plan binding plan
    obtain ⟨es, goes⟩ := made.exists_goes
    refine ⟨a, es, before, goes, written.symm, fun unready => ⟨?_, ?_⟩⟩
    · cases outcome : a.outcome with
      | error f => exact ⟨f, stops f outcome⟩
      | ok => exact absurd outcome unready
    · rw [← left]
      exact get?_keep_self ..
  cases h with
  | ready plan =>
    obtain ⟨a, es, before, goes, flags, stops⟩ := begins plan
    exact ⟨a, es, before, goes, flags, fun unready => nomatch (stops unready).1⟩
  | unplanned plan =>
    obtain ⟨a, es, before, goes, flags, stops⟩ := begins plan
    exact ⟨a, es, before, goes, flags, fun unready => ⟨⟨_, rfl⟩, (stops unready).2⟩⟩
  | embedded plan vector =>
    obtain ⟨a, es, before, goes, flags, stops⟩ := begins plan
    have spared := hE _ _ _ _ _ _ _ _ vector
    exact ⟨a, es, before, goes, flags.trans spared.symm, fun unready => nomatch (stops unready).1⟩

/-- A request either has nothing to do with a vector store, and with the flags, or begins with an
attempt to see to the backend, and with the flags it does nothing else. -/
inductive Tends (q : Request) (b : Broker) (w : World) (b' : Broker) : Prop
  | elsewhere (elsewhere : Elsewhere q b w) (flags : b'.flags = b.flags)
  | setsUp {i a es} (setsUp : SetsUp q b w b' i a es)

theorem Admitted.tends (hE : E.Spares) (admitted : Admitted q b w route o text b₁ w₁)
    (prepares : Prepares E q.caller route text o b₁ w₁ nested p c b₂ w₂)
    (flags : b'.flags = b₂.flags) (later : (∃ payload, p = .ok payload) ∨ b' = b₂) :
    Tends q b w b' := by
  have gate_flags : b₁.flags = b.flags := admitted.rewired.flags_eq
  by_cases vectorStore : ∃ state, route.connector.binding = .qdrant state
  · obtain ⟨state, binding⟩ := vectorStore
    obtain ⟨a, es, before, goes, written, stops⟩ := prepares.exists_goes hE binding
    refine .setsUp ⟨⟨route, o, text, b₁, ?_, ?_, ?_⟩, ?_, goes, written.trans flags.symm⟩
    · rwa [before]
    · rw [before, ← binding]
    · intro unready
      obtain ⟨⟨f, error⟩, kept⟩ := stops unready
      rcases later with ⟨payload, ok⟩ | rfl
      · cases error.symm.trans ok
      · exact kept
    · rw [before]
      exact gate_flags
  · have other : ∀ state, route.connector.binding ≠ .qdrant state := by simpa using vectorStore
    refine .elsewhere ?_ (flags.trans ((prepares.flags_eq hE other).trans gate_flags))
    intro route' o' text' b₁' w₁' state admitted'
    cases admitted.gate.symm.trans admitted'.gate
    exact other state

theorem Course.tends (hE : E.Spares) (h : Course E q b w nested r b' w') : Tends q b w b' := by
  cases h with
  | barred gate =>
    refine .elsewhere ?_ (rewired_of_gate gate).flags_eq
    intro route o text b₁ w₁ state admitted
    cases gate.symm.trans admitted.gate
  | refused gate sanitized =>
    refine .elsewhere ?_ (rewired_of_gate gate).flags_eq
    intro route o text b₁ w₁ state admitted
    cases sanitized.symm.trans admitted.sanitized
  | unprepared admitted prepares => exact admitted.tends hE prepares rfl (.inr rfl)
  | unsigned admitted prepares submits | undelivered admitted prepares submits
  | answered admitted prepares submits =>
    exact admitted.tends hE prepares submits.rewired.flags_eq (.inl ⟨_, rfl⟩)

theorem noVector_spares : NoVector.Spares := by
  rintro caller text b w nested v b' w' ⟨-, -, rfl, -⟩
  rfl

/-- No vector store serves embedding requests. -/
theorem embeds_spares : Embedding.Spares Embeds := by
  intro caller text b w nested v b' w' h
  cases h with
  | known => rfl
  | asked _ course =>
    rw [learn_flags]
    cases course.tends noVector_spares with
    | elsewhere _ flags => exact flags
    | setsUp setsUp =>
      obtain ⟨route, o, text, b₁, admitted, connector, -⟩ := setsUp.served
      have binding := congrArg Connector.binding connector
      cases Connector.purpose_of_vectorStore binding (serves_of_gate admitted.gate)

/-- What a request does to the flags: nothing, unless a vector store serves it, and then they are
set for a refusal and for nothing else, unless nothing is heard of the creation. -/
inductive Answered.Latching (a : Answered) : Prop
  | elsewhere (elsewhere : Elsewhere a.request a.before a.world)
      (flags : a.after.flags = a.before.flags)
  | setsUp {i s es} (setsUp : SetsUp a.request a.before a.world a.after i s es)
      (latches_iff : s.Latches i es ↔
        ∀ e ∈ es, e.payload = VectorStore.creation i → e.heard ≠ none)

/-- In every run of requests, whatever is heard on the way, each request sets the flag for a
refusal and for nothing else exactly if it is told what has become of the collection it creates. -/
theorem latching_of_serveAll {qs : List Request} {rs : List Response}
    (served : serveAll qs b w = .ok ((rs, b'), w')) :
    ∃ log, History b w log b' w' ∧ log.map (·.request) = qs ∧ log.map (·.response) = rs ∧
      ∀ a ∈ log, a.Latching := by
  obtain ⟨log, history, hqs, hrs⟩ := serveAll_eq_ok_iff.1 served
  refine ⟨log, history, hqs, hrs, ?_⟩
  intro a ha
  obtain ⟨w₁, course⟩ := history.course ha
  cases course.tends embeds_spares with
  | elsewhere elsewhere flags => exact .elsewhere elsewhere flags
  | setsUp setsUp => exact .setsUp setsUp (VectorStore.Attempt.latches_iff setsUp.goes)

/-- A vector store for retrievals, and nothing else. -/
def Sample.shelf : Broker where
  config :=
    { instances := [("store", VectorStore.store)]
      assignment? := fun p _ => if p = .retrieval then some "store" else none
      limit := fun _ _ => 1 }
  connectors := [("store", ⟨VectorStore.store, .qdrant .uninitialized⟩)]

/-- A look for something on the shelf. -/
def Sample.search : Request := ⟨Sample.caller, .retrieval, "What does a plant need?", 1, []⟩

/-- Where the backend refuses to create the collection, the flag is set. -/
theorem latching_of_refused_search :
    ∃ rs b' w', serveAll [Sample.search] Sample.shelf
        (.answering [(200, VectorStore.holding ["other"]), (500, "no")]) = .ok ((rs, b'), w') ∧
      b'.flags.status VectorStore.flagKey = VectorStore.creationFailed ∧
      ∃ log : List Answered, log.map (·.request) = [Sample.search] ∧ ∀ a ∈ log, a.Latching := by
  have flag : (serveAll [Sample.search] Sample.shelf
      (.answering [(200, VectorStore.holding ["other"]), (500, "no")])).toOption.map
        (fun s => s.1.2.flags.status VectorStore.flagKey) = some VectorStore.creationFailed := by
    decide +kernel
  cases served : serveAll [Sample.search] Sample.shelf
      (.answering [(200, VectorStore.holding ["other"]), (500, "no")]) with
  | error e => rw [served] at flag; cases flag
  | ok s =>
    obtain ⟨⟨rs, b'⟩, w'⟩ := s
    rw [served] at flag
    obtain ⟨log, -, requests, -, latching⟩ := latching_of_serveAll served
    exact ⟨rs, b', w', rfl, Option.some.inj flag, log, requests, latching⟩

end PromptBroker.Broker
