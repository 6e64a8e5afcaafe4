import PromptBroker.Proofs.Request.History
import PromptBroker.Proofs.Request.Resolution

/-!
# Requests and the connectors in use

A request asks for its connector and uses it: to plan the payload, to make headers, to
send. On the way it may ask for the connector of an embedding request and use that one.
So requests are made of events, and these concern no connectors but the two
(`leads_of_course`). After any number of requests a broker still has a past
(`past_of_history`), and whatever is known of pasts holds for it.
-/

namespace PromptBroker.Broker

/-! ### Events of a request -/

/-- The connector under a name is built or used. -/
def Event.Concerns (name : String) : Event → Prop
  | .built other _ | .used other _ => other = name
  | _ => False

/-- From a broker with a past, one is reached by events that concern the connectors for some
purposes only. The configuration stays. -/
structure Leads (b₀ : Broker) (ps : List Purpose) (r : Role) (log : List Event) (b : Broker)
    (more : List Event) (b' : Broker) : Prop where
  past : Past b₀ (more ++ log) b'
  config : b'.config = b.config
  concerns : ∀ e ∈ more, ∃ p ∈ ps, ∃ name i, e.Concerns name ∧
    b.config.instanceFor p r = .ok (name, i)

variable {b₀ b b₁ b' : Broker} {log more more' : List Event} {ps : List Purpose} {p : Purpose}
  {r : Role} {name : String} {i : Instance} {c c' : Connector}

theorem Leads.trans (h : Leads b₀ ps r log b more b₁)
    (h' : Leads b₀ ps r (more ++ log) b₁ more' b') : Leads b₀ ps r log b (more' ++ more) b' where
  past := by
    rw [List.append_assoc]
    exact h'.past
  config := h'.config.trans h.config
  concerns e he := by
    rcases List.mem_append.1 he with he | he
    · rw [← h.config]
      exact h'.concerns e he
    · exact h.concerns e he

theorem Leads.mono {ps' : List Purpose} (h : Leads b₀ ps r log b more b') (sub : ps ⊆ ps') :
    Leads b₀ ps' r log b more b' where
  past := h.past
  config := h.config
  concerns e he := by
    obtain ⟨p, hp, concerned⟩ := h.concerns e he
    exact ⟨p, sub hp, concerned⟩

/-- Nothing that pasts are about is different. -/
theorem Leads.aside (past : Past b₀ log b) (config : b'.config = b.config)
    (connectors : b'.connectors = b.connectors) : Leads b₀ ps r log b [] b' :=
  ⟨.aside past (by rw [config]) (by rw [config]) connectors, config, List.forall_mem_nil _⟩

theorem leads_of_resolve (past : Past b₀ log b) (p : Purpose) (r : Role) :
    ∃ more, Leads b₀ [p] r log b more (b.resolve p r).2 := by
  rcases leaves_of_resolve b p r with same | ⟨name, i, c, routed, -, fresh, after⟩
  · rw [same]
    exact ⟨[], .aside past rfl rfl⟩
  · have built : Builds b [.built name c] (b.resolve p r).2 := by
      rw [after]
      exact .connector fresh
    refine ⟨_, past.resolve p r built, by rw [after]; rfl, fun e he => ?_⟩
    obtain rfl := List.mem_singleton.1 he
    exact ⟨p, List.mem_singleton_self p, name, i, rfl, routed⟩

theorem Leads.use (past : Past b₀ log b) (routed : b.config.instanceFor p r = .ok (name, i))
    (inUse : b.connectors.get? name = some c) (continues : c.Continues c') :
    Leads b₀ [p] r log b [.used name c'.binding] (b.keep name c') where
  past := by
    rw [continues.eq]
    exact past.use inUse continues.provider
  config := rfl
  concerns e he := by
    obtain rfl := List.mem_singleton.1 he
    exact ⟨p, List.mem_singleton_self p, name, i, rfl, routed⟩

theorem get?_keep_self (b : Broker) (name : String) (c : Connector) :
    (b.keep name c).connectors.get? name = some c := by
  rw [get?_keep, if_pos rfl]

/-- Events that concern other connectors leave one alone. -/
theorem built?_append (others : ∀ e ∈ more, ∃ other, e.Concerns other ∧ other ≠ name) :
    Event.built? name (more ++ log) = Event.built? name log := by
  induction more with
  | nil => rfl
  | cons e more ih =>
    have rest := ih fun e he => others e (List.mem_cons_of_mem _ he)
    obtain ⟨other, concerned, ne⟩ := others e List.mem_cons_self
    cases e with
    | built =>
      cases concerned
      exact (if_neg ne.symm).trans rest
    | used =>
      cases concerned
      exact (if_neg ne.symm).trans rest
    | _ => cases concerned

/-- Requests for embeddings leave the connectors of vector stores alone. -/
theorem Leads.get?_eq (past : Past b₀ log b) (h : Leads b₀ [.embedding] r log b more b')
    (stored : b.config.instance? name = some i) (vectorStore : i.provider.isVectorStore = true) :
    b'.connectors.get? name = b.connectors.get? name := by
  rw [(accords_of_past h.past).built, (accords_of_past past).built]
  refine built?_append fun e he => ?_
  obtain ⟨p, hp, other, i', concerned, routed⟩ := h.concerns e he
  obtain rfl := List.mem_singleton.1 hp
  obtain ⟨-, stored', -, allowed⟩ := instanceFor_eq_ok.1 routed
  refine ⟨other, concerned, ?_⟩
  rintro rfl
  cases stored.symm.trans stored'
  exact allowed ⟨rfl, vectorStore⟩

/-! ### The gate -/

/-- A connector that has been asked for is in use. -/
theorem inUse_of_obtain (obtained : b.obtain name i = (.ok c, b')) :
    b'.connectors.get? name = some c := by
  unfold obtain at obtained
  split at obtained
  · next kept =>
    cases obtained
    exact (connector?_eq_some.1 kept).1
  · split at obtained
    · cases obtained
      exact get?_keep_self ..
    · cases obtained

theorem resolve_of_gate {caller : Caller} {route : Route}
    (gate : b.gate p caller = (.ok route, b')) :
    b.resolve p caller.role = (.ok route, b') := by
  unfold Broker.gate at gate
  split at gate
  · cases gate
  · split at gate
    · cases gate
    · next resolved =>
      rw [resolved]
      obtain ⟨gate, rfl⟩ := Prod.mk.inj gate
      cases limit : checkLimit _ p caller with
      | error f => rw [limit] at gate; cases gate
      | ok u => rw [limit] at gate; cases gate; rfl

theorem leads_of_gate {caller : Caller} {x : Outcome Route} (past : Past b₀ log b)
    (gate : b.gate p caller = (x, b')) : ∃ more, Leads b₀ [p] caller.role log b more b' := by
  obtain ⟨more, leads⟩ := leads_of_resolve past p caller.role
  unfold Broker.gate at gate
  split at gate
  · cases gate
    exact ⟨[], .aside past rfl rfl⟩
  · rcases resolved : b.resolve p caller.role with ⟨f | route, b₁⟩
    all_goals
      rw [resolved] at gate leads
      cases gate
      exact ⟨more, leads⟩

/-- A request has the connector of the instance it is routed to. -/
structure Equipped (q : Request) (b : Broker) (name : String) (c : Connector) (i : Instance) :
    Prop where
  routed : b.config.instanceFor q.purpose q.caller.role = .ok (name, i)
  inUse : b.connectors.get? name = some c
  provider : c.provider = i.provider

variable {q : Request} {route : Route}

theorem equipped_of_gate (past : Past b₀ log b)
    (gate : b.gate q.purpose q.caller = (.ok route, b')) :
    ∃ i, Equipped q b' route.name route.connector i := by
  have resolved := resolve_of_gate gate
  obtain ⟨more, leads⟩ := leads_of_resolve past q.purpose q.caller.role
  obtain ⟨i, routed, obtained, -⟩ := obtain_of_resolve (congrArg Prod.fst resolved)
  rw [resolved] at obtained leads
  refine ⟨i, ?_, inUse_of_obtain obtained, ((accords_of_past past).of_obtain obtained).2.2⟩
  rw [leads.config]
  exact routed

/-- The connector is used. -/
theorem Equipped.use (h : Equipped q b name c i) (past : Past b₀ log b)
    (continues : c.Continues c') :
    Leads b₀ [q.purpose] q.caller.role log b [.used name c'.binding] (b.keep name c') ∧
      Equipped q (b.keep name c') name c' i :=
  ⟨.use past h.routed h.inUse continues, h.routed, get?_keep_self ..,
    continues.provider.trans h.provider⟩

/-! ### The course of a request -/

/-- The events of an embedder concern connectors for embeddings. -/
def Embedding.Upholds (E : Embedding) : Prop :=
  ∀ b₀ log caller text b w nested v b' w', Past b₀ log b → E caller text b w nested v b' w' →
    ∃ more, Leads b₀ [.embedding] caller.role log b more b'

variable {E : Embedding} {w w' : World} {text : String} {o : Options} {nested : Option Response}

theorem Equipped.planned (h : Equipped q b route.name route.connector i) (past : Past b₀ log b)
    {flag : SetupStatus} {x : Outcome Plan}
    (plan : route.connector.plan (b.flags.status VectorStore.flagKey) text o w =
      .ok ((x, c, flag), w')) :
    ∃ more, Leads b₀ [q.purpose] q.caller.role log b more (b.planned route.name c flag) ∧
      Equipped q (b.planned route.name c flag) route.name c i := by
  have continues := (Connector.plan_eq_ok.1 plan).continues
  unfold Broker.planned updateFlag
  split
  · obtain ⟨leads, equipped⟩ := h.use past continues
    exact ⟨_, leads, equipped⟩
  · have flagged : Leads b₀ [q.purpose] q.caller.role log b []
        { b with flags := b.flags.setStatus VectorStore.flagKey flag } := .aside past rfl rfl
    have equipped : Equipped q { b with flags := b.flags.setStatus VectorStore.flagKey flag }
        route.name route.connector i := ⟨h.routed, h.inUse, h.provider⟩
    obtain ⟨leads, equipped⟩ := equipped.use flagged.past continues
    exact ⟨_, flagged.trans leads, equipped⟩

theorem Equipped.prepares (hE : E.Upholds) (h : Equipped q b route.name route.connector i)
    (past : Past b₀ log b) {p : Outcome Http.Payload}
    (prepares : Prepares E q.caller route text o b w nested p c b' w') :
    ∃ more, Leads b₀ [q.purpose, .embedding] q.caller.role log b more b' ∧
      Equipped q b' route.name c i := by
  have own : [q.purpose] ⊆ [q.purpose, .embedding] := by simp
  cases prepares with
  | ready plan | unplanned plan =>
    obtain ⟨more, leads, equipped⟩ := h.planned past plan
    exact ⟨more, leads.mono own, equipped⟩
  | embedded plan vector =>
    obtain ⟨more, leads, equipped⟩ := h.planned past plan
    obtain ⟨more', leads'⟩ := hE _ _ _ _ _ _ _ _ _ _ leads.past vector
    refine ⟨_, (leads.mono own).trans (leads'.mono (by simp)), ?_, ?_, equipped.provider⟩
    · rw [leads'.config]
      exact equipped.routed
    · obtain ⟨state, binding⟩ := (Connector.plan_eq_ok.1 plan).binding_of_awaiting
      have vectorStore : i.provider.isVectorStore = true := by
        rw [← h.provider, Connector.provider, binding]
        rfl
      rw [leads'.get?_eq leads.past (instanceFor_eq_ok.1 equipped.routed).2.1 vectorStore]
      exact equipped.inUse

theorem Equipped.submits (h : Equipped q b name c i) (past : Past b₀ log b) {p : Http.Payload}
    {d : Outcome Delivery} (submits : Submits name c p b w d c' b' w') :
    ∃ more, Leads b₀ [q.purpose] q.caller.role log b more b' := by
  cases submits with
  | unsigned headers => exact ⟨_, (h.use past (Connector.continues_of_headers headers)).1⟩
  | sent headers send =>
    obtain ⟨leads, equipped⟩ := h.use past (Connector.continues_of_headers headers)
    exact ⟨_, leads.trans (equipped.use leads.past (Connector.continues_of_send send)).1⟩

theorem Admitted.equipped (h : Admitted q b w route o text b' w') (past : Past b₀ log b) :
    ∃ more i, Leads b₀ [q.purpose] q.caller.role log b more b' ∧
      Equipped q b' route.name route.connector i := by
  obtain ⟨more, leads⟩ := leads_of_gate past h.gate
  obtain ⟨i, equipped⟩ := equipped_of_gate past h.gate
  exact ⟨more, i, leads, equipped⟩

end PromptBroker.Broker
