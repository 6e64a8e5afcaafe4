import PromptBroker.Proofs.Alike
import PromptBroker.Proofs.Connector

/-!
# Which connector serves

The broker keeps the connectors it has built by the name of their instance. Meanwhile
instances are stored, purposes are assigned, and connectors are used or forgotten, in
any order. `Past` gives the brokers that come of it, each with the events that led to
it, the last first; that a connector has been built is an event only if it shows in the
connectors in use.

What a call of `resolve` does is told by the events alone (`resolves_of_past`): the
connector built last under the name is used again, with all it keeps, as long as it has
not been forgotten and its instance is still the one stored; otherwise one is built.
-/

namespace PromptBroker.Broker

/-! ### Events -/

/-- What happens to a broker, as far as the choice of connectors goes. -/
inductive Event where
  /-- An instance is stored, in place of one of the same name. -/
  | stored (i : Instance)
  /-- The instance of a name is to serve a purpose for a role. -/
  | assigned (p : Purpose) (r : Role) (name : String)
  /-- A connector is built under a name. -/
  | built (name : String) (c : Connector)
  /-- The connector under a name is used, and has something else to keep. -/
  | used (name : String) (binding : Binding)
  /-- All connectors are forgotten. -/
  | cleared

namespace Event

/-- The instance stored under a name; at first it is the one in the configuration. -/
def stored? (c : Configuration) (name : String) : List Event → Option Instance
  | [] => c.instance? name
  | .stored i :: log => if name = i.name then some i else stored? c name log
  | _ :: log => stored? c name log

/-- The name assigned to a purpose for a role. -/
def assigned? (c : Configuration) (p : Purpose) (r : Role) : List Event → Option String
  | [] => c.assignment? p r
  | .assigned p' r' name :: log => if p = p' ∧ r = r' then some name else assigned? c p r log
  | _ :: log => assigned? c p r log

/-- The connector built last under a name since connectors were forgotten, with what it has come
to keep. -/
def built? (name : String) : List Event → Option Connector
  | [] => none
  | .built name' c :: log => if name = name' then some c else built? name log
  | .used name' binding :: log =>
    if name = name' then (built? name log).map ({ · with binding := binding }) else built? name log
  | .cleared :: _ => none
  | _ :: log => built? name log

end Event

/-- The building of a connector, as it shows: one is in use that has not been before. -/
inductive Builds (b : Broker) : List Event → Broker → Prop
  | nothing : Builds b [] b
  | connector {name c} (fresh : b.connectors.get? name ≠ some c) :
      Builds b [.built name c] (b.keep name c)

/-- The brokers that come of a broker without connectors, with the events since, the last first. -/
inductive Past (b₀ : Broker) : List Event → Broker → Prop
  | start (fresh : b₀.connectors = []) : Past b₀ [] b₀
  | store {log b} (past : Past b₀ log b) (i : Instance) :
      Past b₀ (.stored i :: log) { b with config := b.config.addInstance i }
  | assign {log b} (past : Past b₀ log b) (p : Purpose) (r : Role) (name : String) :
      Past b₀ (.assigned p r name :: log) { b with config := b.config.assign p r name }
  /-- The connector for a purpose and a role is asked for, whatever the answer. -/
  | resolve {log b made} (past : Past b₀ log b) (p : Purpose) (r : Role)
      (builds : Builds b made (b.resolve p r).2) : Past b₀ (made ++ log) (b.resolve p r).2
  /-- A connector in use stays with its instance and its provider, whatever it keeps. -/
  | use {log b name c binding} (past : Past b₀ log b) (inUse : b.connectors.get? name = some c)
      (provider : binding.provider = c.provider) :
      Past b₀ (.used name binding :: log) (b.keep name { c with binding := binding })
  | clear {log b} (past : Past b₀ log b) : Past b₀ (.cleared :: log) b.clearConnectors
  /-- Accounts, files, flags, vectors, limits and tenants may change at any time. -/
  | aside {log b b'} (past : Past b₀ log b) (instances : b'.config.instances = b.config.instances)
      (assignment : b'.config.assignment? = b.config.assignment?)
      (connectors : b'.connectors = b.connectors) : Past b₀ log b'

/-! ### One call -/

variable {b b' : Broker} {p : Purpose} {r : Role} {name : String} {i : Instance} {c : Connector}

/-- The instance of a configuration that a call leads to, under the name by which it is assigned. -/
theorem instanceFor_eq_ok {config : Configuration} :
    config.instanceFor p r = .ok (name, i) ↔
      config.assignment? p r = some name ∧ config.instance? name = some i ∧ i.enabled = true ∧
        ¬(p = .embedding ∧ i.provider.isVectorStore = true) := by
  unfold Configuration.instanceFor
  constructor
  · intro h
    split at h
    · cases h
    next assigned =>
    split at h
    · cases h
    next stored =>
    split at h
    · cases h
    next enabled =>
    split at h
    · cases h
    next allowed =>
    cases h
    exact ⟨assigned, stored, by simpa using enabled, by simpa using allowed⟩
  · rintro ⟨assigned, stored, enabled, allowed⟩
    simp [assigned, stored, enabled, allowed]

/-- How a call is answered when there is a connector: it is returned if it serves the purpose. -/
inductive Answers (p : Purpose) (name : String) (c : Connector) : Outcome Route → Prop
  | serves (serves : c.serves p = true) : Answers p name c (.ok ⟨name, c⟩)
  | doesNot (doesNot : c.serves p = false) :
      Answers p name c (.error (.configurationError
        s!"Connector '{c.provider.name}' does not serve purpose '{p.name}'"))

theorem resolve_of_unassigned {f : Failure} (h : b.config.instanceFor p r = .error f) :
    b.resolve p r = (.error f, b) := by
  rw [resolve, h]

theorem resolve_of_obtained (h : b.config.instanceFor p r = .ok (name, i))
    (obtained : b.obtain name i = (.ok c, b')) :
    Answers p name c (b.resolve p r).1 ∧ (b.resolve p r).2 = b' := by
  rw [resolve, h]
  dsimp only
  rw [obtained]
  dsimp only
  split
  · next serves => exact ⟨.serves serves, rfl⟩
  · next doesNot => exact ⟨.doesNot (by simpa using doesNot), rfl⟩

/-- A call returns what it has obtained. -/
theorem obtain_of_resolve {route : Route} (returned : (b.resolve p r).1 = .ok route) :
    ∃ i, b.config.instanceFor p r = .ok (route.name, i) ∧
      b.obtain route.name i = (.ok route.connector, (b.resolve p r).2) ∧
      route.connector.serves p = true := by
  rcases found : b.config.instanceFor p r with f | ⟨name, i⟩
  · rw [resolve_of_unassigned found] at returned
    cases returned
  rcases obtained : b.obtain name i with ⟨f | c, b'⟩
  · simp only [resolve, found, obtained] at returned
    cases returned
  obtain ⟨answers, after⟩ := resolve_of_obtained found obtained
  rw [returned] at answers
  cases answers with
  | serves serves => exact ⟨i, rfl, by rw [obtained, after], serves⟩

/-- A connector in use for an instance that is configured alike. -/
theorem connector?_eq_some :
    b.connector? name i = some c ↔ b.connectors.get? name = some c ∧ c.config.isSameAs i = true :=
  Option.filter_eq_some_iff

theorem obtain_of_kept (kept : b.connector? name i = some c) : b.obtain name i = (.ok c, b) := by
  rw [obtain, kept]

theorem obtain_of_made (kept : b.connector? name i = none) (made : Connector.ofInstance i = .ok c) :
    b.obtain name i = (.ok c, b.keep name c) := by
  simp only [obtain, kept, made]

theorem resolve_of_unmade {f : Failure} (h : b.config.instanceFor p r = .ok (name, i))
    (kept : b.connector? name i = none) (failed : Connector.ofInstance i = .error f) :
    b.resolve p r = (.error f, b) := by
  simp only [resolve, h, obtain, kept, failed]

/-- A call leaves the broker as it is, or with a connector that has just been made. -/
theorem leaves_of_resolve (b : Broker) (p : Purpose) (r : Role) :
    (b.resolve p r).2 = b ∨ ∃ name i c, b.config.instanceFor p r = .ok (name, i) ∧
      Connector.ofInstance i = .ok c ∧ b.connectors.get? name ≠ some c ∧
      (b.resolve p r).2 = b.keep name c := by
  rcases routed : b.config.instanceFor p r with f | ⟨name, i⟩
  · rw [resolve_of_unassigned routed]
    exact .inl rfl
  cases kept : b.connector? name i with
  | some c => exact .inl (resolve_of_obtained routed (obtain_of_kept kept)).2
  | none =>
    cases made : Connector.ofInstance i with
    | error f =>
      rw [resolve_of_unmade routed kept made]
      exact .inl rfl
    | ok c =>
      refine .inr ⟨name, i, c, rfl, made, fun inUse => ?_,
        (resolve_of_obtained routed (obtain_of_made kept made)).2⟩
      obtain ⟨rfl, valid, -⟩ := Connector.of_ofInstance made
      have same := connector?_eq_some.2 ⟨inUse, Instance.isSameAs_of_alike valid (.refl c.config)⟩
      rw [kept] at same
      cases same

theorem get?_keep (b : Broker) (name other : String) (c : Connector) :
    (b.keep name c).connectors.get? other =
      if other = name then some c else b.connectors.get? other :=
  Keyed.get?_insert ..

/-- A broker is as the events tell, and its connectors are bound to sound instances. -/
structure Accords (c₀ : Configuration) (log : List Event) (b : Broker) : Prop where
  stored : ∀ name, b.config.instance? name = Event.stored? c₀ name log
  assigned : ∀ p r, b.config.assignment? p r = Event.assigned? c₀ p r log
  built : ∀ name, b.connectors.get? name = Event.built? name log
  sound : ∀ name c, b.connectors.get? name = some c →
    c.config.validate = .ok () ∧ c.provider = c.config.provider

variable {c₀ : Configuration} {log : List Event}

theorem Accords.store (h : Accords c₀ log b) (i : Instance) :
    Accords c₀ (.stored i :: log) { b with config := b.config.addInstance i } where
  stored name := by
    show Keyed.get? name (b.config.instances.insert i.name i) = _
    have before : b.config.instances.get? name = Event.stored? c₀ name log := h.stored name
    grind [Event.stored?]
  assigned := h.assigned
  built := h.built
  sound := h.sound

theorem Accords.assign (h : Accords c₀ log b) (p : Purpose) (r : Role) (name : String) :
    Accords c₀ (.assigned p r name :: log) { b with config := b.config.assign p r name } where
  stored := h.stored
  assigned p' r' := by
    unfold Event.assigned?
    rw [← h.assigned]
    rfl
  built := h.built
  sound := h.sound

theorem Accords.keep (h : Accords c₀ log b) (sound : c.config.validate = .ok ())
    (provider : c.provider = c.config.provider) :
    Accords c₀ (.built name c :: log) (b.keep name c) where
  stored := h.stored
  assigned := h.assigned
  built other := by
    unfold Event.built?
    rw [get?_keep, h.built]
  sound other c' inUse := by
    rw [get?_keep] at inUse
    split at inUse
    · cases inUse
      exact ⟨sound, provider⟩
    · exact h.sound other c' inUse

theorem Accords.builds (h : Accords c₀ log b) {made : List Event}
    (builds : Builds b made (b.resolve p r).2) : Accords c₀ (made ++ log) (b.resolve p r).2 := by
  generalize left : (b.resolve p r).2 = b' at builds
  cases builds with
  | nothing => exact h
  | @connector name c fresh =>
    -- What is new under the name is what the call has made.
    rcases leaves_of_resolve b p r with same | ⟨name', i, c', -, made, -, after⟩
    · rw [left] at same
      have := get?_keep b name name c
      rw [same, if_pos rfl] at this
      exact absurd this fresh
    · rw [left] at after
      have under := get?_keep b name name c
      rw [after, get?_keep, if_pos rfl] at under
      split at under
      · cases under
        obtain ⟨rfl, valid, provider⟩ := Connector.of_ofInstance made
        exact h.keep valid provider
      · exact absurd under fresh

theorem Accords.use (h : Accords c₀ log b) {binding : Binding}
    (inUse : b.connectors.get? name = some c) (provider : binding.provider = c.provider) :
    Accords c₀ (.used name binding :: log) (b.keep name { c with binding := binding }) where
  stored := h.stored
  assigned := h.assigned
  built other := by
    unfold Event.built?
    rw [get?_keep, ← h.built]
    split
    · next same =>
      subst same
      rw [inUse]
      rfl
    · rfl
  sound other c' inUse' := by
    rw [get?_keep] at inUse'
    split at inUse'
    · cases inUse'
      obtain ⟨valid, same⟩ := h.sound name c inUse
      exact ⟨valid, provider.trans same⟩
    · exact h.sound other c' inUse'

theorem Accords.clear (h : Accords c₀ log b) :
    Accords c₀ (.cleared :: log) b.clearConnectors where
  stored := h.stored
  assigned := h.assigned
  built name := Keyed.get?_nil name
  sound name _ inUse := nomatch (Keyed.get?_nil name).symm.trans inUse

/-- Every broker with a past is as the events tell. -/
theorem accords_of_past {b₀ : Broker} (past : Past b₀ log b) : Accords b₀.config log b := by
  induction past with
  | start fresh =>
    refine ⟨fun _ => rfl, fun _ _ => rfl, fun name => ?_, fun name c inUse => ?_⟩
    · rw [fresh]
      rfl
    · rw [fresh] at inUse
      cases inUse
  | store _ i ih => exact ih.store i
  | assign _ p r name ih => exact ih.assign p r name
  | resolve _ p r builds ih => exact ih.builds builds
  | use _ inUse provider ih => exact ih.use inUse provider
  | clear _ ih => exact ih.clear
  | aside _ instances assignment connectors ih =>
    refine ⟨fun name => ?_, fun p r => ?_, fun name => ?_, fun name c inUse => ?_⟩
    · rw [← ih.stored, Configuration.instance?, instances, Configuration.instance?]
    · rw [assignment, ih.assigned]
    · rw [connectors, ih.built]
    · rw [connectors] at inUse
      exact ih.sound name c inUse

/-! ### A vector store in use -/

namespace Sample

def library : Instance :=
  { name := "library", provider := .qdrant, model := "docs", endpoint := "http://[::1]/" }

def librarian : Connector := ⟨library, .qdrant .uninitialized⟩

/-- Retrievals are assigned to the vector store. -/
def shelved : Broker :=
  { config := (Configuration.addInstance {} library).assign .retrieval .basic "library" }

/-- Its connector has been built and its backend set up. -/
def reading : Broker :=
  (shelved.keep "library" librarian).keep "library" { librarian with binding := .qdrant .ready }

def readingLog : List Event :=
  [.used "library" (.qdrant .ready), .built "library" librarian,
    .assigned .retrieval .basic "library", .stored library]

theorem made_librarian : Connector.ofInstance library = .ok librarian := by
  have sound : library.defect? = none := by
    simp only [Instance.defect?, Text.isAllBlank, String.all_bool_eq]
    decide +kernel
  exact Connector.ofInstance_of_sound sound rfl

theorem resolve_shelved :
    (shelved.resolve .retrieval .basic).2 = shelved.keep "library" librarian := by
  have routed : shelved.config.instanceFor .retrieval .basic = .ok ("library", library) := by rfl
  exact (resolve_of_obtained routed (obtain_of_made rfl made_librarian)).2

theorem past_reading : Past {} readingLog reading := by
  have shelved : Past {} [.assigned .retrieval .basic "library", .stored library] shelved :=
    ((Past.start rfl).store library).assign .retrieval .basic "library"
  have builds : Builds Sample.shelved [.built "library" librarian]
      (Sample.shelved.resolve .retrieval .basic).2 := by
    rw [resolve_shelved]
    exact .connector nofun
  have built := shelved.resolve .retrieval .basic builds
  rw [resolve_shelved] at built
  exact built.use (c := librarian) rfl rfl

end Sample

/-! ### Any call at any time -/

/-- The instance that the events lead to: it is stored under the assigned name, switched on, and no
vector store that would have to provide embeddings. -/
structure Routed (c₀ : Configuration) (log : List Event) (p : Purpose) (r : Role) (name : String)
    (i : Instance) : Prop where
  assigned : Event.assigned? c₀ p r log = some name
  stored : Event.stored? c₀ name log = some i
  enabled : i.enabled = true
  allowed : ¬(p = .embedding ∧ i.provider.isVectorStore = true)

/-- Nothing has been built under a name since connectors were forgotten, or the instance stored
now is another than that of the connector built last. -/
def Outdated (log : List Event) (name : String) (i : Instance) : Prop :=
  ∀ c, Event.built? name log = some c → ¬c.config.Alike i

/-- How a call is answered, given what has happened. -/
structure Resolves (c₀ : Configuration) (log : List Event) (p : Purpose) (r : Role) (b : Broker) :
    Prop where
  /-- A connector that is returned is bound to the instance stored under the assigned name. -/
  returned : ∀ route, (b.resolve p r).1 = .ok route → ∃ i, Routed c₀ log p r route.name i ∧
    i.validate = .ok () ∧ route.connector.config.Alike i ∧ route.connector.serves p = true ∧
      ¬(p = .embedding ∧ route.connector.provider.isVectorStore = true)
  /-- The connector built last is used again as long as its instance is the one stored. -/
  reused : ∀ name i c, Routed c₀ log p r name i → Event.built? name log = some c →
    c.config.Alike i → Answers p name c (b.resolve p r).1 ∧ (b.resolve p r).2 = b
  /-- Otherwise one is built, also when it turns out not to serve the purpose. -/
  built : ∀ name i c, Routed c₀ log p r name i → Outdated log name i →
    Connector.ofInstance i = .ok c →
      Answers p name c (b.resolve p r).1 ∧ Builds b [.built name c] (b.resolve p r).2
  /-- What cannot be built leaves everything in place. -/
  unbuilt : ∀ name i f, Routed c₀ log p r name i → Outdated log name i →
    Connector.ofInstance i = .error f → b.resolve p r = (.error f, b)
  /-- Neither is anything built when there is no instance to build it for. -/
  unrouted : (∀ name i, ¬Routed c₀ log p r name i) → ∃ f, b.resolve p r = (.error f, b)

theorem Accords.routed_iff (h : Accords c₀ log b) :
    b.config.instanceFor p r = .ok (name, i) ↔ Routed c₀ log p r name i := by
  rw [instanceFor_eq_ok, h.assigned, h.stored]
  exact ⟨fun ⟨assigned, stored, enabled, allowed⟩ => ⟨assigned, stored, enabled, allowed⟩,
    fun h => ⟨h.assigned, h.stored, h.enabled, h.allowed⟩⟩

theorem Accords.connector?_of_alike (h : Accords c₀ log b) (built : Event.built? name log = some c)
    (alike : c.config.Alike i) : b.connector? name i = some c := by
  rw [← h.built] at built
  exact connector?_eq_some.2 ⟨built, Instance.isSameAs_of_alike (h.sound name c built).1 alike⟩

theorem Accords.connector?_of_outdated (h : Accords c₀ log b) (outdated : Outdated log name i) :
    b.connector? name i = none := by
  refine Option.eq_none_iff_forall_ne_some.2 fun c kept => ?_
  obtain ⟨inUse, same⟩ := connector?_eq_some.1 kept
  rw [h.built] at inUse
  exact outdated c inUse (Instance.alike_of_isSameAs same)

/-- The connector that an instance has or is given is bound to it, and the instance is sound. -/
theorem Accords.of_obtain (h : Accords c₀ log b) (obtained : b.obtain name i = (.ok c, b')) :
    i.validate = .ok () ∧ c.config.Alike i ∧ c.provider = i.provider := by
  unfold obtain at obtained
  split at obtained
  · next kept =>
    cases obtained
    obtain ⟨inUse, same⟩ := connector?_eq_some.1 kept
    have alike := Instance.alike_of_isSameAs same
    obtain ⟨valid, provider⟩ := h.sound name c inUse
    exact ⟨alike.validate_eq.trans valid, alike, provider.trans alike.provider_eq⟩
  · split at obtained
    · next made =>
      cases obtained
      obtain ⟨rfl, valid, provider⟩ := Connector.of_ofInstance made
      exact ⟨valid, .refl _, provider⟩
    · cases obtained

theorem Accords.of_resolve (h : Accords c₀ log b) {route : Route}
    (returned : (b.resolve p r).1 = .ok route) :
    ∃ i, Routed c₀ log p r route.name i ∧ i.validate = .ok () ∧ route.connector.config.Alike i ∧
      route.connector.serves p = true ∧
        ¬(p = .embedding ∧ route.connector.provider.isVectorStore = true) := by
  obtain ⟨i, found, obtained, serves⟩ := obtain_of_resolve returned
  have routed := h.routed_iff.1 found
  obtain ⟨valid, alike, provider⟩ := h.of_obtain obtained
  exact ⟨i, routed, valid, alike, serves, by rw [provider]; exact routed.allowed⟩

/-- Resolution is never stale. At any time, after any instances have been stored, purposes assigned,
connectors asked for, used and forgotten, a call answers with the connector built last under the
assigned name if that one has not been forgotten and its instance is still the one stored, and
builds a new one if not. -/
theorem resolves_of_past {b₀ : Broker} (past : Past b₀ log b) (p : Purpose) (r : Role) :
    Resolves b₀.config log p r b := by
  have accords := accords_of_past past
  refine ⟨fun route returned => accords.of_resolve returned, ?_, ?_, ?_, ?_⟩
  · intro name i c routed built alike
    exact resolve_of_obtained (accords.routed_iff.2 routed)
      (obtain_of_kept (accords.connector?_of_alike built alike))
  · intro name i c routed outdated made
    obtain ⟨answers, after⟩ := resolve_of_obtained (accords.routed_iff.2 routed)
      (obtain_of_made (accords.connector?_of_outdated outdated) made)
    refine ⟨answers, after ▸ .connector fun inUse => ?_⟩
    rw [accords.built] at inUse
    refine outdated c inUse ?_
    rw [(Connector.of_ofInstance made).1]
    exact .refl i
  · intro name i f routed outdated failed
    exact resolve_of_unmade (accords.routed_iff.2 routed) (accords.connector?_of_outdated outdated)
      failed
  · intro unrouted
    rcases found : b.config.instanceFor p r with f | ⟨name, i⟩
    · exact ⟨f, resolve_of_unassigned found⟩
    · exact absurd (accords.routed_iff.1 found) (unrouted name i)

/-- The vector store is returned once more, with its backend known to be set up. -/
theorem resolves_of_past_reading :
    Past {} Sample.readingLog Sample.reading ∧
      Resolves {} Sample.readingLog .retrieval .basic Sample.reading ∧
      Sample.reading.resolve .retrieval .basic =
        (.ok ⟨"library", { Sample.librarian with binding := .qdrant .ready }⟩, Sample.reading) :=
  ⟨Sample.past_reading, resolves_of_past Sample.past_reading .retrieval .basic, rfl⟩

end PromptBroker.Broker
