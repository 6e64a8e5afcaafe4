import PromptBroker.Proofs.Charges
import PromptBroker.Proofs.Connector
import PromptBroker.Proofs.Request.Gate
import PromptBroker.Proofs.Request.History

/-!
# Requests and accounts

An answered request is put on one account, that of its caller for its purpose, and a
request that fails is put on none. A vector store lets a second account grow on the
way, that of the caller for embeddings, if its embedding request is answered. Both
happen below the limit that applies. Whatever is served, the accounts have then
grown by what was answered (`accounts_of_serveAll`).
-/

namespace PromptBroker.Broker

open Ledger

/-! ### What is put on accounts -/

/-- What a response puts on accounts. -/
def chargesOf (caller : Caller) (p : Purpose) (r : Response) : List Charge :=
  match r.usage? with
  | some usage => [⟨caller.user, p, caller.role, usage⟩]
  | none => []

/-- What the embedding request on the way puts on accounts. -/
def nestedCharges (caller : Caller) (nested : Option Response) : List Charge :=
  nested.toList.flatMap (chargesOf caller .embedding)

/-- What a request puts on accounts, in order. -/
def Answered.charges (a : Answered) : List Charge :=
  nestedCharges a.request.caller a.nested ++ chargesOf a.request.caller a.request.purpose a.response

/-- The configuration is the same, and the charges have been made. -/
structure Charges (b : Broker) (cs : List Charge) (b' : Broker) : Prop where
  config : b'.config = b.config
  charged : Charged b.config.limit b.ledger cs b'.ledger

/-- The embedder puts on accounts what the embedding request does, and nothing else. -/
def Embedding.Charging (E : Embedding) : Prop :=
  ∀ caller text b w nested v b' w', E caller text b w nested v b' w' →
    Charges b (nestedCharges caller nested) b'

variable {E : Embedding} {b b' b'' : Broker} {w w' : World} {q : Request} {cs ds : List Charge}
  {nested : Option Response} {r : Response}

theorem Charges.trans (h : Charges b cs b') (h' : Charges b' ds b'') : Charges b (cs ++ ds) b'' :=
  ⟨h'.config.trans h.config, h.charged.append (h.config ▸ h'.charged)⟩

@[simp] theorem chargesOf_ofFailure (caller : Caller) (p : Purpose) (f : Failure) :
    chargesOf caller p (.ofFailure f) = [] := rfl

@[simp] theorem chargesOf_mapContent (caller : Caller) (p : Purpose) (g : String → String)
    (r : Response) :
    chargesOf caller p (r.mapContent g) = chargesOf caller p r := by
  cases r <;> rfl

theorem concerns_of_mem_chargesOf {caller : Caller} {p : Purpose} {c : Charge}
    (h : c ∈ chargesOf caller p r) (user : Int) (p' : Purpose) :
    c.concerns user p' ↔ user = caller.user ∧ p' = p := by
  unfold chargesOf at h
  split at h
  · obtain rfl := List.mem_singleton.1 h
    refine ⟨fun concerns => ?_, fun ⟨hu, hp⟩ => decide_eq_true ⟨hu.symm, hp.symm⟩⟩
    obtain ⟨hu, hp⟩ := of_decide_eq_true concerns
    exact ⟨hu.symm, hp.symm⟩
  · cases h

theorem filter_chargesOf (caller : Caller) (p : Purpose) (r : Response) :
    (chargesOf caller p r).filter (·.concerns caller.user p) = chargesOf caller p r :=
  List.filter_eq_self.2 fun _ h => (concerns_of_mem_chargesOf h _ _).2 ⟨rfl, rfl⟩

theorem filter_chargesOf_of_ne (caller : Caller) {p p' : Purpose} (h : p' ≠ p) (r : Response)
    (user : Int) : (chargesOf caller p r).filter (·.concerns user p') = [] :=
  List.filter_eq_nil_iff.2 fun _ hc concerns => h ((concerns_of_mem_chargesOf hc _ _).1 concerns).2

@[simp] theorem nestedCharges_some (caller : Caller) (r : Response) :
    nestedCharges caller (some r) = chargesOf caller .embedding r :=
  List.append_nil _

/-! ### Steps that leave accounts alone -/

/-- Configuration and accounts are the same. -/
structure Undisturbed (b b' : Broker) : Prop where
  config : b'.config = b.config
  ledger : b'.ledger = b.ledger

theorem Undisturbed.refl (b : Broker) : Undisturbed b b := ⟨rfl, rfl⟩

theorem Undisturbed.trans (h : Undisturbed b b') (h' : Undisturbed b' b'') : Undisturbed b b'' :=
  ⟨h'.config.trans h.config, h'.ledger.trans h.ledger⟩

theorem Undisturbed.charges (h : Undisturbed b b') : Charges b [] b' :=
  ⟨h.config, h.ledger ▸ .nil⟩

theorem planned_undisturbed (b : Broker) (name : String) (c : Connector) (flag : SetupStatus) :
    Undisturbed b (b.planned name c flag) := by
  unfold planned updateFlag
  split <;> exact ⟨rfl, rfl⟩

theorem learn_undisturbed (b : Broker) (caching : Bool) (text : String)
    (v : Outcome (List Float32)) : Undisturbed b (b.learn caching text v) := by
  unfold learn
  split
  · split
    · exact ⟨rfl, rfl⟩
    · exact .refl b
  · exact .refl b

theorem Rewired.undisturbed (h : Rewired b b') : Undisturbed b b' := by
  obtain ⟨connectors, rfl⟩ := h
  exact ⟨rfl, rfl⟩

/-! ### Vectors on the way -/

theorem Prepares.charges (hE : E.Charging) {caller : Caller} {route : Route} {text : String}
    {o : Options} {p : Outcome Http.Payload} {c : Connector}
    (h : Prepares E caller route text o b w nested p c b' w') :
    Charges b (nestedCharges caller nested) b' := by
  cases h with
  | ready => exact (planned_undisturbed b route.name c _).charges
  | unplanned => exact (planned_undisturbed b route.name c _).charges
  | embedded _ vector =>
    exact (planned_undisturbed b route.name c _).charges.trans (hE _ _ _ _ _ _ _ _ vector)

theorem Prepares.binding_of_nested {caller : Caller} {route : Route} {text : String} {o : Options}
    {p : Outcome Http.Payload} {c : Connector}
    (h : Prepares E caller route text o b w (some r) p c b' w') :
    ∃ state, route.connector.binding = .qdrant state := by
  cases h with
  | embedded plan => exact (Connector.plan_eq_ok.1 plan).binding_of_awaiting

/-- Only a retrieval makes an embedding request on the way. -/
theorem Course.purpose_of_nested (h : Course E q b w (some r) r' b' w') :
    q.purpose = .retrieval := by
  have served {route : Route} {o : Options} {text : String} {b₁ b₂ : Broker} {w₁ w₂ : World}
      {p : Outcome Http.Payload} {c : Connector} (admitted : Admitted q b w route o text b₁ w₁)
      (prepares : Prepares E q.caller route text o b₁ w₁ (some r) p c b₂ w₂) :
      q.purpose = .retrieval := by
    obtain ⟨state, binding⟩ := prepares.binding_of_nested
    exact Connector.purpose_of_vectorStore binding (serves_of_gate admitted.gate)
  cases h with
  | unprepared admitted prepares => exact served admitted prepares
  | unsigned admitted prepares => exact served admitted prepares
  | undelivered admitted prepares => exact served admitted prepares
  | answered admitted prepares => exact served admitted prepares

/-! ### A course -/

/-- The embedding request on the way goes to another account. -/
theorem Course.filter_nestedCharges (h : Course E q b w nested r b' w') (user : Int) :
    (nestedCharges q.caller nested).filter (·.concerns user q.purpose) = [] := by
  cases nested with
  | none => rfl
  | some r' =>
    rw [nestedCharges_some]
    refine filter_chargesOf_of_ne q.caller ?_ r' user
    rw [h.purpose_of_nested]
    decide

theorem charged_charge {l : Ledger} {limit : Purpose → Role → UInt64} {caller : Caller}
    {p : Purpose} (below : (l.entry caller.user p).requests < limit p caller.role) (r : Response) :
    Charged limit l (chargesOf caller p r) (charge l caller.user p r) := by
  unfold chargesOf charge
  cases r.usage? with
  | none => exact .nil
  | some usage => exact .cons below .nil

theorem Course.charges (hE : E.Charging) (h : Course E q b w nested r b' w') :
    Charges b (nestedCharges q.caller nested ++ chargesOf q.caller q.purpose r) b' := by
  have h₀ := h
  cases h with
  | barred gate => exact (rewired_of_gate gate).undisturbed.charges
  | refused gate => exact (rewired_of_gate gate).undisturbed.charges
  | unprepared admitted prepares =>
    rw [chargesOf_ofFailure, List.append_nil]
    exact admitted.rewired.undisturbed.charges.trans (prepares.charges hE)
  | unsigned admitted prepares submits =>
    exact (admitted.rewired.undisturbed.charges.trans (prepares.charges hE)).trans
      submits.rewired.undisturbed.charges
  | undelivered admitted prepares submits =>
    exact (admitted.rewired.undisturbed.charges.trans (prepares.charges hE)).trans
      submits.rewired.undisturbed.charges
  | @answered route o text b₁ w₁ nested p c b₂ w₂ status body c' b₃ w' r files admitted prepares
      submits decoded =>
    have prepared := admitted.rewired.undisturbed.charges.trans (prepares.charges hE)
    have submitted := prepared.trans submits.rewired.undisturbed.charges
    rw [List.append_nil] at submitted
    have same := submitted.charged.entry_eq
      (List.filter_eq_nil_iff.1 (h₀.filter_nestedCharges q.caller.user))
    have below := below_of_gate admitted.gate
    rw [← same, ← submitted.config] at below
    rw [chargesOf_mapContent]
    exact submitted.trans ⟨rfl, charged_charge below r⟩

theorem noVector_charging : Embedding.Charging NoVector := by
  rintro caller text b w nested v b' w' ⟨rfl, -, rfl, -⟩
  exact (Undisturbed.refl b').charges

theorem embeds_charging : Embedding.Charging Embeds := by
  intro caller text b w nested v b' w' h
  cases h with
  | known => exact (Undisturbed.refl b).charges
  | asked miss course =>
    refine (course.charges noVector_charging).trans (learn_undisturbed _ _ _ _).charges

/-! ### What becomes of accounts -/

/-- The account of a caller for a purpose was below the limit, and has been raised by one answered
request. -/
structure Raised (b b' : Broker) (caller : Caller) (p : Purpose) (usage : Usage) : Prop where
  below : (b.ledger.entry caller.user p).requests < b.config.limit p caller.role
  requests : (b'.ledger.entry caller.user p).requests.toNat =
    (b.ledger.entry caller.user p).requests.toNat + 1
  consumed : (b'.ledger.entry caller.user p).consumed =
    (b.ledger.entry caller.user p).consumed + usage.total
  within : (b'.ledger.entry caller.user p).requests ≤ b.config.limit p caller.role

/-- What an answered request has done to accounts. -/
structure Answered.Settled (a : Answered) : Prop where
  config : a.after.config = a.before.config
  /-- A success raises the account of the caller for the purpose. -/
  success : ∀ model usage content, a.response = .success model usage content →
    Raised a.before a.after a.request.caller a.request.purpose usage
  /-- A failure leaves this account alone. -/
  failure : a.response.isSuccess = false →
    a.after.ledger.entry a.request.caller.user a.request.purpose =
      a.before.ledger.entry a.request.caller.user a.request.purpose
  /-- Only a retrieval makes an embedding request. -/
  retrieval : ∀ r, a.nested = some r → a.request.purpose = .retrieval
  /-- If it is answered, it raises the account of the caller for embeddings. -/
  embedding : ∀ model usage content, a.nested = some (.success model usage content) →
    Raised a.before a.after a.request.caller .embedding usage
  /-- All other accounts are left alone. -/
  others : ∀ user p, ¬(user = a.request.caller.user ∧ p = a.request.purpose) →
    ¬(user = a.request.caller.user ∧ p = .embedding ∧ ∃ r, a.nested = some r ∧ r.isSuccess) →
    a.after.ledger.entry user p = a.before.ledger.entry user p

theorem Charges.raised {caller : Caller} {p : Purpose} {usage : Usage} (h : Charges b cs b')
    (one : cs.filter (·.concerns caller.user p) = [⟨caller.user, p, caller.role, usage⟩]) :
    Raised b b' caller p usage where
  below := h.charged.lt_limit one
  requests := by rw [h.charged.toNat_requests, one]; rfl
  consumed := by rw [h.charged.consumed_eq, one]; rfl
  within := by
    rcases h.charged.requests_le caller.user p with same | ⟨c, hc, concerns, le⟩
    · have requests := h.charged.toNat_requests caller.user p
      rw [same, one] at requests
      simp at requests
    · have hc : c ∈ cs.filter (·.concerns caller.user p) := List.mem_filter.2 ⟨hc, concerns⟩
      rw [one, List.mem_singleton] at hc
      rwa [hc] at le

/-- An answered request has done to accounts what it should. -/
theorem Course.settled {w₁ : World} (h : Course Embeds q b w nested r b' w₁) :
    Answered.Settled ⟨q, b, w, nested, r, b'⟩ where
  config := (h.charges embeds_charging).config
  success := by
    rintro model usage content rfl
    refine (h.charges embeds_charging).raised ?_
    rw [List.filter_append, h.filter_nestedCharges, List.nil_append, filter_chargesOf]
    rfl
  failure := by
    intro failed
    have none : chargesOf q.caller q.purpose r = [] := by
      cases r with
      | success => cases failed
      | failure => rfl
    refine (h.charges embeds_charging).charged.entry_eq (List.filter_eq_nil_iff.1 ?_)
    rw [none, List.append_nil, h.filter_nestedCharges]
  retrieval := by
    rintro r' rfl
    exact h.purpose_of_nested
  embedding := by
    rintro model usage content rfl
    have other : Purpose.embedding ≠ q.purpose := by
      rw [h.purpose_of_nested]
      decide
    refine (h.charges embeds_charging).raised ?_
    rw [List.filter_append, nestedCharges_some, filter_chargesOf, filter_chargesOf_of_ne _ other]
    rfl
  others := by
    intro user p own embedding
    refine (h.charges embeds_charging).charged.entry_eq fun c hc concerns => ?_
    rcases List.mem_append.1 hc with hc | hc
    · cases nested with
      | none => cases hc
      | some r' =>
        rw [nestedCharges_some] at hc
        obtain ⟨hu, hp⟩ := (concerns_of_mem_chargesOf hc user p).1 concerns
        refine embedding ⟨hu, hp, r', rfl, ?_⟩
        cases r' with
        | success => rfl
        | failure => cases hc
    · exact own ((concerns_of_mem_chargesOf hc user p).1 concerns)

/-! ### Whole runs -/

variable {log : List Answered}

theorem History.charges (h : History b w log b' w') :
    Charges b (log.flatMap Answered.charges) b' := by
  induction h with
  | nil => exact (Undisturbed.refl _).charges
  | cons course _ ih => exact (course.charges embeds_charging).trans ih

theorem History.settled (h : History b w log b' w') {a : Answered} (ha : a ∈ log) : a.Settled := by
  obtain ⟨w₁, course⟩ := h.course ha
  exact course.settled

/-- What a run of requests has put on the account of a user for a purpose, in order. -/
def chargesTo (log : List Answered) (user : Int) (p : Purpose) : List Charge :=
  (log.flatMap Answered.charges).filter (·.concerns user p)

/-- Quota and accounting are exact over whole runs. Each request has settled its accounts, and at
the end every account has grown by the charges made to it, without wrapping around, and is not
above a limit under which it was raised. -/
theorem accounts_of_serveAll {qs : List Request} {rs : List Response}
    (served : serveAll qs b w = .ok ((rs, b'), w')) :
    ∃ log, History b w log b' w' ∧ log.map (·.request) = qs ∧ log.map (·.response) = rs ∧
      (∀ a ∈ log, a.Settled) ∧
      ∀ user p,
        (b'.ledger.entry user p).requests.toNat =
            (b.ledger.entry user p).requests.toNat + (chargesTo log user p).length ∧
          (b'.ledger.entry user p).consumed =
            (chargesTo log user p).foldl (fun sum c => sum + c.usage.total)
              (b.ledger.entry user p).consumed ∧
          (chargesTo log user p = [] ∨
            ∃ c ∈ chargesTo log user p,
              (b'.ledger.entry user p).requests ≤ b.config.limit p c.role) := by
  obtain ⟨log, history, hqs, hrs⟩ := serveAll_eq_ok_iff.1 served
  refine ⟨log, history, hqs, hrs, fun a => history.settled, fun user p => ?_⟩
  have charged := history.charges.charged
  refine ⟨charged.toNat_requests user p, charged.consumed_eq user p, ?_⟩
  rcases charged.requests_le user p with same | ⟨c, hc, concerns, le⟩
  · have requests := charged.toNat_requests user p
    rw [same] at requests
    exact .inl (List.eq_nil_of_length_eq_zero (by unfold chargesTo; omega))
  · exact .inr ⟨c, List.mem_filter.2 ⟨hc, concerns⟩, le⟩

/-- With a limit of one the second of two questions is turned away, and the account holds one
request. -/
theorem accounts_of_two_chats :
    ∃ rs b' w', serveAll [Sample.chat, Sample.chat] (Sample.broker 1)
        (Sample.world [Sample.said "Hi"]) = .ok ((rs, b'), w') ∧
      rs.map Response.kind? = [none, some .quotaExceeded] ∧
      ∃ log, log.map (·.response) = rs ∧ (∀ a ∈ log, a.Settled) ∧
        (b'.ledger.entry 42 .chat).requests.toNat = (chargesTo log 42 .chat).length := by
  have kinds : (serveAll [Sample.chat, Sample.chat] (Sample.broker 1)
      (Sample.world [Sample.said "Hi"])).toOption.map (fun s => s.1.1.map Response.kind?) =
        some [none, some .quotaExceeded] := by
    decide +kernel
  cases served : serveAll [Sample.chat, Sample.chat] (Sample.broker 1)
      (Sample.world [Sample.said "Hi"]) with
  | error e => rw [served] at kinds; cases kinds
  | ok s =>
    obtain ⟨⟨rs, b'⟩, w'⟩ := s
    rw [served] at kinds
    obtain ⟨log, _, _, responses, settled, accounts⟩ := accounts_of_serveAll served
    refine ⟨rs, b', w', rfl, Option.some.inj kinds, log, responses, settled, ?_⟩
    rw [(accounts 42 .chat).1]
    exact Nat.zero_add _

end PromptBroker.Broker
