import PromptBroker.Proofs.Kinds
import PromptBroker.Proofs.Request.Course

/-!
# The checks before a request

Ten checks stand between a caller and a provider. `Check.failure?` puts each of them
by itself: it says whether the check turns a request away, and with which failure,
whatever the other checks say. Of the checks that turn a request away the first in
order is the one that is reported, and a request that is turned away leaves no trace
but a connector that has come into use (`run_checks`).
-/

namespace PromptBroker.Broker

/-! ### Checks -/

/-- What is checked before a request is made. -/
inductive Check where
  /-- The tenant may use the broker. -/
  | tenant
  /-- An instance is assigned to the purpose for the role. -/
  | assignment
  /-- The assigned instance exists. -/
  | presence
  /-- It is switched on. -/
  | enabled
  /-- It is no vector store that would have to provide embeddings. -/
  | routing
  /-- There is a connector for it. -/
  | connector
  /-- The connector serves the purpose. -/
  | service
  /-- The role may use the purpose at all. -/
  | limit
  /-- The caller has requests left. -/
  | quota
  /-- The purpose accepts the options. -/
  | options
  deriving DecidableEq, Repr

namespace Check

/-- The checks of the assigned instance, in order. -/
def ofInstance : List Check := [.assignment, .presence, .enabled, .routing]

/-- The checks of its connector. -/
def ofConnector : List Check := [.connector, .service]

/-- The checks of the limit. -/
def ofLimit : List Check := [.limit, .quota]

/-- The checks of the gate. -/
def ofGate : List Check := .tenant :: (ofInstance ++ ofConnector ++ ofLimit)

/-- All checks in order. -/
def all : List Check := ofGate ++ [.options]

/-- The kind of failure that a check reports. -/
def kind : Check → Failure.Kind
  | .tenant | .enabled => .disabled
  | .assignment | .presence | .limit => .notConfigured
  | .routing | .connector | .service => .internal
  | .quota => .quotaExceeded
  | .options => .invalidParameter

end Check

/-- The instance assigned to a request, under the name by which it is assigned. -/
def Request.assigned? (q : Request) (b : Broker) : Option (String × Instance) :=
  (b.config.assignment? q.purpose q.caller.role).bind fun name =>
    (b.config.instance? name).map fun i => (name, i)

/-- The connector that an instance has, or would be given. -/
def connectorFor (b : Broker) (name : String) (i : Instance) : Outcome Connector :=
  match b.connector? name i with
  | some c => .ok c
  | none => Connector.ofInstance i

/-- The failure with which a check turns a request away, if it does. -/
def Check.failure? (q : Request) (b : Broker) (fresh : Uuid) : Check → Option Failure
  | .tenant =>
    if q.caller.tenant ∈ b.config.disabledTenants then some (.tenantDisabled q.caller.tenant)
    else none
  | .assignment =>
    match b.config.assignment? q.purpose q.caller.role with
    | some _ => none
    | none => some (.notConfigured q.purpose.name q.caller.role.name)
  | .presence =>
    (b.config.assignment? q.purpose q.caller.role).bind fun name =>
      match b.config.instance? name with
      | some _ => none
      | none => some (.notConfigured q.purpose.name q.caller.role.name)
  | .enabled =>
    (q.assigned? b).bind fun (_, i) =>
      if i.enabled then none else some (.instanceDisabled i.name)
  | .routing =>
    (q.assigned? b).bind fun (_, i) =>
      if q.purpose = .embedding ∧ i.provider.isVectorStore then
        some (.configurationError
          s!"Instance '{i.name}' is a vector store and cannot serve embeddings")
      else none
  | .connector =>
    (q.assigned? b).bind fun (name, i) =>
      match b.connectorFor name i with
      | .ok _ => none
      | .error f => some f
  | .service =>
    (q.assigned? b).bind fun (name, i) =>
      match b.connectorFor name i with
      | .ok c =>
        if c.serves q.purpose then none
        else
          some (.configurationError
            s!"Connector '{c.provider.name}' does not serve purpose '{q.purpose.name}'")
      | .error _ => none
  | .limit =>
    if b.config.limit q.purpose q.caller.role = 0 then
      some (.notConfigured q.purpose.name q.caller.role.name)
    else none
  | .quota =>
    if b.config.limit q.purpose q.caller.role ≤
        (b.ledger.entry q.caller.user q.purpose).requests then
      some (.quotaExceeded q.purpose.name (b.config.limit q.purpose q.caller.role).toNat)
    else none
  | .options =>
    match q.purpose.sanitize fresh q.raw with
    | .ok _ => none
    | .error f => some f

/-- The first check of a list that turns a request away, with its failure. -/
def Check.first? (q : Request) (b : Broker) (fresh : Uuid) (checks : List Check) :
    Option (Check × Failure) :=
  checks.findSome? fun k => (k.failure? q b fresh).map fun f => (k, f)

/-- Nothing but the connectors in use is different, and of these at most the one under the name of
the instance assigned to the request, which is new. -/
def Request.Installs (q : Request) (b b' : Broker) : Prop :=
  b' = b ∨ ∃ name i c, q.assigned? b = some (name, i) ∧ b.connector? name i = none ∧
    Connector.ofInstance i = .ok c ∧ b' = { b with connectors := b.connectors.insert name c }

/-! ### One check -/

variable {q : Request} {b b' : Broker} {fresh : Uuid}

theorem Check.kind_of_failure? {k : Check} {f : Failure} (h : k.failure? q b fresh = some f) :
    f.kind = k.kind := by
  cases k with
  | tenant | assignment | limit | quota =>
    simp only [failure?] at h
    split at h <;> cases h
    rfl
  | presence =>
    obtain ⟨name, -, h⟩ := Option.bind_eq_some_iff.1 h
    split at h <;> cases h
    rfl
  | enabled | routing =>
    obtain ⟨⟨name, i⟩, -, h⟩ := Option.bind_eq_some_iff.1 h
    dsimp only at h
    split at h <;> cases h
    rfl
  | connector =>
    obtain ⟨⟨name, i⟩, -, h⟩ := Option.bind_eq_some_iff.1 h
    dsimp only [connectorFor] at h
    split at h <;> cases h
    next hc =>
      split at hc
      · cases hc
      · exact List.mem_singleton.1 (failsWith_ofInstance i f hc)
  | service =>
    obtain ⟨⟨name, i⟩, -, h⟩ := Option.bind_eq_some_iff.1 h
    dsimp only at h
    split at h
    · split at h <;> cases h
      rfl
    · cases h
  | options =>
    simp only [failure?] at h
    split at h <;> cases h
    next hs => exact List.mem_singleton.1 (failsWith_sanitize _ _ _ f hs)

theorem Check.first?_cons_of_some {k : Check} {f : Failure} (h : k.failure? q b fresh = some f)
    (ks : List Check) : first? q b fresh (k :: ks) = some (k, f) := by
  simp [first?, h]

theorem Check.first?_cons_of_none {k : Check} (h : k.failure? q b fresh = none)
    (ks : List Check) : first? q b fresh (k :: ks) = first? q b fresh ks := by
  simp [first?, h]

theorem Check.first?_append (ks ls : List Check) :
    first? q b fresh (ks ++ ls) = (first? q b fresh ks).or (first? q b fresh ls) := by
  simp [first?, List.findSome?_append]

theorem Check.failure?_of_first? {k : Check} {f : Failure} {ks : List Check}
    (h : first? q b fresh ks = some (k, f)) : k.failure? q b fresh = some f := by
  obtain ⟨k', -, hk⟩ := List.exists_of_findSome?_eq_some h
  obtain ⟨f', hf, hk⟩ := Option.map_eq_some_iff.1 hk
  cases hk
  exact hf

/-! ### The gate -/

theorem instanceFor_checks (q : Request) (b : Broker) (fresh : Uuid) :
    match Check.first? q b fresh Check.ofInstance with
    | some (_, f) => b.config.instanceFor q.purpose q.caller.role = .error f
    | none => ∃ name i, q.assigned? b = some (name, i) ∧
        b.config.instanceFor q.purpose q.caller.role = .ok (name, i) := by
  unfold Configuration.instanceFor Check.ofInstance
  cases assignment : b.config.assignment? q.purpose q.caller.role with
  | none =>
    have fails : Check.assignment.failure? q b fresh =
        some (.notConfigured q.purpose.name q.caller.role.name) := by
      simp only [Check.failure?, assignment]
    rw [Check.first?_cons_of_some fails]
  | some name =>
    rw [Check.first?_cons_of_none (by simp only [Check.failure?, assignment])]
    cases presence : b.config.instance? name with
    | none =>
      have fails : Check.presence.failure? q b fresh =
          some (.notConfigured q.purpose.name q.caller.role.name) := by
        simp only [Check.failure?, assignment, Option.bind_some, presence]
      rw [Check.first?_cons_of_some fails]
      simp only [presence]
    | some i =>
      have assigned : q.assigned? b = some (name, i) := by
        simp only [Request.assigned?, assignment, Option.bind_some, presence, Option.map_some]
      rw [Check.first?_cons_of_none
        (by simp only [Check.failure?, assignment, Option.bind_some, presence])]
      simp only [presence]
      cases enabled : i.enabled with
      | false =>
        have fails : Check.enabled.failure? q b fresh = some (.instanceDisabled i.name) := by
          simp [Check.failure?, assigned, enabled]
        rw [Check.first?_cons_of_some fails]
        rfl
      | true =>
        rw [Check.first?_cons_of_none (by simp [Check.failure?, assigned, enabled])]
        by_cases routing : q.purpose = .embedding ∧ i.provider.isVectorStore
        · have fails : Check.routing.failure? q b fresh = some (.configurationError
              s!"Instance '{i.name}' is a vector store and cannot serve embeddings") := by
            simp only [Check.failure?, assigned, Option.bind_some, if_pos routing]
          rw [Check.first?_cons_of_some fails]
          simp [routing]
        · have passes : Check.routing.failure? q b fresh = none := by
            simp only [Check.failure?, assigned, Option.bind_some, if_neg routing]
          rw [Check.first?_cons_of_none passes]
          exact ⟨name, i, assigned, by simp [routing]⟩

/-- The connector of the assigned instance is the one that `connectorFor` says, and nothing is left
behind but a new connector. -/
theorem obtain_eq {name : String} {i : Instance} (assigned : q.assigned? b = some (name, i)) :
    ∃ b', b.obtain name i = (b.connectorFor name i, b') ∧ q.Installs b b' := by
  unfold Broker.obtain connectorFor
  cases kept : b.connector? name i with
  | some c => exact ⟨b, rfl, .inl rfl⟩
  | none =>
    cases made : Connector.ofInstance i with
    | error f => exact ⟨b, rfl, .inl rfl⟩
    | ok c => exact ⟨b.keep name c, rfl, .inr ⟨name, i, c, assigned, kept, made, rfl⟩⟩

theorem resolve_checks (q : Request) (b : Broker) (fresh : Uuid) :
    match Check.first? q b fresh (Check.ofInstance ++ Check.ofConnector) with
    | some (_, f) => ∃ b', b.resolve q.purpose q.caller.role = (.error f, b') ∧ q.Installs b b'
    | none => ∃ name i c b', q.assigned? b = some (name, i) ∧ b.connectorFor name i = .ok c ∧
        b.resolve q.purpose q.caller.role = (.ok ⟨name, c⟩, b') ∧ q.Installs b b' := by
  have instanceFor := instanceFor_checks q b fresh
  rw [Check.first?_append]
  cases h : Check.first? q b fresh Check.ofInstance with
  | some kf =>
    rw [h] at instanceFor
    refine ⟨b, ?_, .inl rfl⟩
    rw [resolve, instanceFor]
  | none =>
    rw [h] at instanceFor
    obtain ⟨name, i, assigned, instanceFor⟩ := instanceFor
    obtain ⟨b', obtained, installs⟩ := obtain_eq assigned
    rw [resolve, instanceFor, Option.none_or, Check.ofConnector]
    simp only [obtained]
    cases found : b.connectorFor name i with
    | error f =>
      have fails : Check.connector.failure? q b fresh = some f := by
        simp only [Check.failure?, assigned, Option.bind_some, found]
      rw [Check.first?_cons_of_some fails]
      exact ⟨b', rfl, installs⟩
    | ok c =>
      rw [Check.first?_cons_of_none
        (by simp only [Check.failure?, assigned, Option.bind_some, found])]
      cases service : c.serves q.purpose with
      | false =>
        have fails : Check.service.failure? q b fresh = some (.configurationError
            s!"Connector '{c.provider.name}' does not serve purpose '{q.purpose.name}'") := by
          simp [Check.failure?, assigned, found, service]
        rw [Check.first?_cons_of_some fails]
        exact ⟨b', by simp [service], installs⟩
      | true =>
        have passes : Check.service.failure? q b fresh = none := by
          simp [Check.failure?, assigned, found, service]
        rw [Check.first?_cons_of_none passes]
        exact ⟨name, i, c, b', assigned, found, by simp [service], installs⟩

theorem checkLimit_checks (q : Request) (b : Broker) (fresh : Uuid) :
    match Check.first? q b fresh Check.ofLimit with
    | some (_, f) => b.checkLimit q.purpose q.caller = .error f
    | none => b.checkLimit q.purpose q.caller = .ok () := by
  unfold checkLimit Check.ofLimit
  by_cases unset : b.config.limit q.purpose q.caller.role = 0
  · have fails : Check.limit.failure? q b fresh =
        some (.notConfigured q.purpose.name q.caller.role.name) := by
      simp only [Check.failure?, if_pos unset]
    rw [Check.first?_cons_of_some fails]
    exact if_pos unset
  · rw [Check.first?_cons_of_none (by simp only [Check.failure?, if_neg unset])]
    by_cases reached : b.config.limit q.purpose q.caller.role ≤
        (b.ledger.entry q.caller.user q.purpose).requests
    · have fails : Check.quota.failure? q b fresh = some
          (.quotaExceeded q.purpose.name (b.config.limit q.purpose q.caller.role).toNat) := by
        simp only [Check.failure?, if_pos reached]
      rw [Check.first?_cons_of_some fails]
      exact (if_neg unset).trans (if_pos reached)
    · rw [Check.first?_cons_of_none (by simp only [Check.failure?, if_neg reached])]
      exact (if_neg unset).trans (if_neg reached)

theorem Request.Installs.rewired (h : q.Installs b b') : Rewired b b' := by
  rcases h with rfl | ⟨name, i, c, -, -, -, rfl⟩
  · exact ⟨_, rfl⟩
  · exact ⟨_, rfl⟩

theorem Rewired.checkLimit_eq (h : Rewired b b') (p : Purpose) (caller : Caller) :
    b'.checkLimit p caller = b.checkLimit p caller := by
  obtain ⟨connectors, rfl⟩ := h
  rfl

theorem gate_checks (q : Request) (b : Broker) (fresh : Uuid) :
    match Check.first? q b fresh Check.ofGate with
    | some (_, f) => ∃ b', b.gate q.purpose q.caller = (.error f, b') ∧ q.Installs b b'
    | none => ∃ name i c b', q.assigned? b = some (name, i) ∧ b.connectorFor name i = .ok c ∧
        b.gate q.purpose q.caller = (.ok ⟨name, c⟩, b') ∧ q.Installs b b' := by
  unfold Broker.gate Configuration.isTenantEnabled Check.ofGate
  by_cases tenant : q.caller.tenant ∈ b.config.disabledTenants
  · have fails : Check.tenant.failure? q b fresh = some (.tenantDisabled q.caller.tenant) := by
      simp only [Check.failure?, if_pos tenant]
    rw [Check.first?_cons_of_some fails]
    exact ⟨b, by simp [tenant], .inl rfl⟩
  rw [Check.first?_cons_of_none (by simp only [Check.failure?, if_neg tenant]), Check.first?_append]
  have resolve := resolve_checks q b fresh
  cases h : Check.first? q b fresh (Check.ofInstance ++ Check.ofConnector) with
  | some kf =>
    rw [h] at resolve
    obtain ⟨b', resolve, installs⟩ := resolve
    exact ⟨b', by simp [tenant, resolve], installs⟩
  | none =>
    rw [h] at resolve
    obtain ⟨name, i, c, b', assigned, found, resolve, installs⟩ := resolve
    have checkLimit := checkLimit_checks q b fresh
    rw [← installs.rewired.checkLimit_eq] at checkLimit
    rw [Option.none_or]
    cases h : Check.first? q b fresh Check.ofLimit with
    | some kf =>
      rw [h] at checkLimit
      exact ⟨b', by simp [tenant, resolve, checkLimit, Except.map], installs⟩
    | none =>
      rw [h] at checkLimit
      exact ⟨name, i, c, b', assigned, found, by simp [tenant, resolve, checkLimit, Except.map],
        installs⟩

theorem installs_of_gate {x : Outcome Route}
    (h : b.gate q.purpose q.caller = (x, b')) : q.Installs b b' := by
  have gate := gate_checks q b (Uuid.ofBytes [])
  split at gate
  · obtain ⟨b₁, gate, installs⟩ := gate
    cases h.symm.trans gate
    exact installs
  · obtain ⟨_, _, _, b₁, _, _, gate, installs⟩ := gate
    cases h.symm.trans gate
    exact installs

theorem rewired_of_gate {x : Outcome Route} (h : b.gate q.purpose q.caller = (x, b')) :
    Rewired b b' := (installs_of_gate h).rewired

theorem Admitted.rewired {w w' : World} {route : Route} {o : Options} {text : String}
    (h : Admitted q b w route o text b' w') : Rewired b b' := rewired_of_gate h.gate

/-- A request that passes the gate passes each of its checks. -/
theorem failure?_of_gate {route : Route} (h : b.gate q.purpose q.caller = (.ok route, b'))
    (fresh : Uuid) {k : Check} (hk : k ∈ Check.ofGate) : k.failure? q b fresh = none := by
  have gate := gate_checks q b fresh
  cases first : Check.first? q b fresh Check.ofGate with
  | some kf =>
    rw [first] at gate
    obtain ⟨_, gate, _⟩ := gate
    cases h.symm.trans gate
  | none =>
    have := List.findSome?_eq_none_iff.1 first k hk
    simpa using this

/-- The gate leads to the connector of the assigned instance. -/
theorem connectorFor_of_gate {route : Route} (h : b.gate q.purpose q.caller = (.ok route, b')) :
    ∃ i, q.assigned? b = some (route.name, i) ∧
      b.connectorFor route.name i = .ok route.connector := by
  have gate := gate_checks q b (Uuid.ofBytes [])
  split at gate
  · obtain ⟨_, gate, _⟩ := gate
    cases h.symm.trans gate
  · obtain ⟨name, i, c, _, assigned, found, gate, _⟩ := gate
    cases h.symm.trans gate
    exact ⟨i, assigned, found⟩

theorem serves_of_gate {route : Route} (h : b.gate q.purpose q.caller = (.ok route, b')) :
    route.connector.serves q.purpose = true := by
  obtain ⟨i, assigned, found⟩ := connectorFor_of_gate h
  have passes := failure?_of_gate h (Uuid.ofBytes []) (k := .service) (by decide)
  simpa [Check.failure?, assigned, found] using passes

/-- The connector that has sent a request still serves its purpose. -/
theorem Admitted.serves_of_submits {E : Embedding} {w w₁ w₂ w' : World} {route : Route}
    {o : Options} {text : String} {b₁ b₂ : Broker} {nested : Option Response} {p : Http.Payload}
    {x : Outcome Http.Payload} {d : Outcome Delivery} {c c' : Connector}
    (admitted : Admitted q b w route o text b₁ w₁)
    (prepares : Prepares E q.caller route text o b₁ w₁ nested x c b₂ w₂)
    (submits : Submits route.name c p b₂ w₂ d c' b' w') : c'.serves q.purpose = true := by
  unfold Connector.serves
  rw [submits.provider_eq, prepares.provider_eq]
  exact serves_of_gate admitted.gate

theorem below_of_gate {route : Route} (h : b.gate q.purpose q.caller = (.ok route, b')) :
    (b.ledger.entry q.caller.user q.purpose).requests < b.config.limit q.purpose q.caller.role := by
  have passes := failure?_of_gate h (Uuid.ofBytes []) (k := .quota) (by decide)
  simpa [Check.failure?] using passes

/-! ### The options as well -/

theorem all_checks (q : Request) (b : Broker) (fresh : Uuid) :
    match Check.first? q b fresh Check.all with
    | some (_, f) => ∃ b', q.Installs b b' ∧
        (b.gate q.purpose q.caller = (.error f, b') ∨
          ∃ route, b.gate q.purpose q.caller = (.ok route, b') ∧
            q.purpose.sanitize fresh q.raw = .error f)
    | none => ∃ name i c o b', q.assigned? b = some (name, i) ∧ b.connectorFor name i = .ok c ∧
        b.gate q.purpose q.caller = (.ok ⟨name, c⟩, b') ∧
        q.purpose.sanitize fresh q.raw = .ok o ∧ q.Installs b b' := by
  have gate := gate_checks q b fresh
  unfold Check.all
  rw [Check.first?_append]
  cases h : Check.first? q b fresh Check.ofGate with
  | some kf =>
    rw [h] at gate
    obtain ⟨b', gate, installs⟩ := gate
    exact ⟨b', installs, .inl gate⟩
  | none =>
    rw [h] at gate
    obtain ⟨name, i, c, b', assigned, found, gate, installs⟩ := gate
    rw [Option.none_or]
    cases sanitized : q.purpose.sanitize fresh q.raw with
    | error f =>
      have fails : Check.options.failure? q b fresh = some f := by
        simp only [Check.failure?, sanitized]
      rw [Check.first?_cons_of_some fails]
      exact ⟨b', installs, .inr ⟨_, gate, rfl⟩⟩
    | ok o =>
      rw [Check.first?_cons_of_none (by simp only [Check.failure?, sanitized])]
      exact ⟨name, i, c, o, b', assigned, found, gate, rfl, installs⟩

/-- The first check that turns a request away settles it: the request is answered with the failure
of this check, no call is made, and accounts, files, flags and vectors are as they were; only the
connector of the assigned instance may have come into use. If no check turns it away, the request
is carried out, beginning with its prompt. This holds wherever vectors come from. -/
theorem run_checks (embed : Embedder) (q : Request) (b : Broker) (w : World) :
    match Check.first? q b (w.names w.drawn) Check.all with
    | some (k, f) => f.kind = k.kind ∧ ∃ b' w', q.run embed b w = .ok ((.ofFailure f, b'), w') ∧
        q.Installs b b' ∧ (w' = w ∨ w' = w.drawName)
    | none => ∃ name i c o b', q.assigned? b = some (name, i) ∧ b.connectorFor name i = .ok c ∧
        q.purpose.sanitize (w.names w.drawn) q.raw = .ok o ∧ q.Installs b b' ∧
        q.run embed b w =
          carryOut embed q.caller q.purpose ⟨name, c⟩ q.prompt q.context o b' w.drawName := by
  have checks := all_checks q b (w.names w.drawn)
  cases h : Check.first? q b (w.names w.drawn) Check.all with
  | some kf =>
    rw [h] at checks
    refine ⟨Check.kind_of_failure? (Check.failure?_of_first? h), ?_⟩
    obtain ⟨b', installs, gate | ⟨route, gate, sanitized⟩⟩ := checks
    · exact ⟨b', w, run_of_barred gate, installs, .inl rfl⟩
    · exact ⟨b', w.drawName, run_of_refused gate sanitized, installs, .inr rfl⟩
  | none =>
    rw [h] at checks
    obtain ⟨name, i, c, o, b', assigned, found, gate, sanitized, installs⟩ := checks
    exact ⟨name, i, c, o, b', assigned, found, sanitized, installs,
      run_of_accepted gate sanitized⟩

end PromptBroker.Broker
