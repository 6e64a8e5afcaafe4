import PromptBroker.Proofs.Connector

/-!
# Calls on record

Whatever a run does, the record of calls only grows. A call is put on record exactly
if its address can be called, so that what has been answered is on record, and a
step that meets no address that can be called leaves the network alone.
-/

namespace PromptBroker

namespace Http

/-- Whether a text is an address that can be called. -/
def isCallable (url : String) : Bool :=
  match Url.parse? url with
  | some u => u.detached.isCallable
  | none => false

theorem follow_calls (budget : Nat) (q : Request) (hops : List Request) (p : Peer) :
    (follow budget q hops p).2.2.calls = p.calls := by
  have next_calls (p : Peer) : p.next.2.calls = p.calls := by
    unfold Peer.next
    split <;> rfl
  induction budget generalizing q hops p with
  | zero =>
    unfold follow
    split
    · rfl
    · split
      · rfl
      · dsimp only
        split
        · exact next_calls p
        · split
          · exact next_calls p
          · exact next_calls p
          · next h => cases h
  | succ budget ih =>
    unfold follow
    split
    · rfl
    · split
      · rfl
      · dsimp only
        split
        · exact next_calls p
        · split
          · exact next_calls p
          · next h => cases h
          · next h =>
            cases h
            rw [ih]
            exact next_calls p

/-- An address that can be called is called, and the call is put on record. -/
theorem calls_of_callable {url : String} (h : isCallable url = true) (method : Method)
    (headers : Headers) (body : Body) (p : Peer) :
    ∃ c, (call method url headers body p).2.calls = p.calls ++ [c] := by
  unfold isCallable at h
  unfold call
  split at h
  · next u hu =>
    rw [hu]
    simp only [h, Bool.not_true, Bool.false_eq_true, if_false]
    exact ⟨_, congrArg (· ++ [_]) (follow_calls _ _ _ _)⟩
  · cases h

/-- Nothing happens for an address that cannot be called. -/
theorem call_of_not_callable {url : String} (h : isCallable url = false) (method : Method)
    (headers : Headers) (body : Body) (p : Peer) :
    ∃ e, call method url headers body p = (.error e, p) := by
  unfold isCallable at h
  unfold call
  split at h
  · next u hu =>
    rw [hu]
    simp only [h, Bool.not_false, if_true]
    exact ⟨_, rfl⟩
  · next hu =>
    rw [hu]
    exact ⟨_, rfl⟩

theorem prefix_calls (method : Method) (url : String) (headers : Headers) (body : Body)
    (p : Peer) : p.calls <+: (call method url headers body p).2.calls := by
  cases h : isCallable url with
  | true =>
    obtain ⟨c, hc⟩ := calls_of_callable h method headers body p
    rw [hc]
    exact List.prefix_append _ _
  | false =>
    obtain ⟨e, he⟩ := call_of_not_callable h method headers body p
    have same : (call method url headers body p).2 = p := congrArg Prod.snd he
    exact same.symm ▸ List.prefix_refl _

end Http

/-! ### Runs -/

/-- The record of calls only grows. -/
def Run.Grows {α : Type} (x : Run α) : Prop :=
  ∀ w a w', x w = .ok (a, w') → w.peer.calls <+: w'.peer.calls

namespace Run

variable {α β : Type} {x : Run α} {w w' : World}

theorem grows_pure (a : α) : Grows (pure a) := by
  intro w a' w' h
  obtain ⟨-, rfl⟩ := pure_eq_ok.1 h
  exact List.prefix_refl _

theorem Grows.bind {f : α → Run β} (hx : Grows x) (hf : ∀ a, Grows (f a)) : Grows (x >>= f) := by
  intro w b w' h
  obtain ⟨a, w₁, ha, hb⟩ := bind_eq_ok.1 h
  exact (hx _ _ _ ha).trans (hf a _ _ _ hb)

theorem Grows.map {f : α → β} (hx : Grows x) : Grows (f <$> x) := by
  intro w b w' h
  obtain ⟨a, ha, -⟩ := map_eq_ok.1 h
  exact hx _ _ _ ha

theorem call_eq_ok {method : Http.Method} {url : String} {headers : Http.Headers}
    {body : Http.Body} {a : Except Http.CallError Http.Answer} :
    call method url headers body w = .ok (a, w') ↔
      (Http.call method url headers body w.peer).1 = a ∧
        { w with peer := (Http.call method url headers body w.peer).2 } = w' := by
  show Except.ok ((Http.call method url headers body w.peer).1,
    { w with peer := (Http.call method url headers body w.peer).2 }) = .ok (a, w') ↔ _
  rw [Except.ok.injEq, Prod.mk.injEq]

theorem charsets_of_call {method : Http.Method} {url : String} {headers : Http.Headers}
    {body : Http.Body} {a : Except Http.CallError Http.Answer}
    (called : call method url headers body w = .ok (a, w')) : w'.charsets = w.charsets := by
  obtain ⟨-, rfl⟩ := call_eq_ok.1 called
  rfl

theorem grows_call (method : Http.Method) (url : String) (headers : Http.Headers)
    (body : Http.Body) : Grows (call method url headers body) := by
  intro w a w' h
  obtain ⟨-, rfl⟩ := call_eq_ok.1 h
  exact Http.prefix_calls method url headers body w.peer

theorem grows_now : Grows now := by
  intro w a w' h
  cases h
  exact List.prefix_refl _

theorem grows_charsets : Grows charsets := by
  intro w a w' h
  cases h
  exact List.prefix_refl _

theorem grows_date (value : Option α) : Grows (date value) := by
  intro w a w' h
  cases value with
  | none => cases h
  | some v =>
    cases h
    exact List.prefix_refl _

end Run

/-! ### Steps of a request -/

theorem grows_fetchAll (urls : List String) : (Page.fetchAll urls).Grows := by
  induction urls with
  | nil => exact Run.grows_pure []
  | cons url rest ih =>
    refine (Run.grows_call _ _ _ _).bind fun answer => Run.grows_charsets.bind fun charsets =>
      ih.bind fun others => ?_
    split
    · exact Run.grows_pure _
    · exact Run.grows_pure _

theorem grows_formatPrompt (p : Purpose) (prompt : String) (o : Options) :
    (p.formatPrompt prompt o).Grows := by
  unfold Purpose.formatPrompt
  split
  · exact (grows_fetchAll _).bind fun pages => Run.grows_pure _
  · split
    · exact Run.grows_pure _
    · exact Run.grows_pure _
  · exact Run.grows_pure _

theorem grows_submit (p : Http.Payload) (headers : Http.Headers) :
    (Http.submit p headers).Grows := by
  unfold Http.submit
  split
  · exact Run.grows_pure _
  · exact (Run.grows_call _ _ _ _).map

theorem grows_ensure (i : Instance) (state : BackendState) (flag : SetupStatus) :
    (VectorStore.ensure i state flag).Grows := by
  have grows_createIfMissing : (VectorStore.createIfMissing i).Grows := by
    unfold VectorStore.createIfMissing
    split
    · exact Run.grows_pure _
    · refine (grows_submit _ _).bind fun d => ?_
      split
      · exact Run.grows_pure _
      · split
        · exact Run.grows_pure _
        · exact (grows_submit _ _).bind fun d => Run.grows_pure _
  unfold VectorStore.ensure
  split
  · exact Run.grows_pure _
  · split
    · exact Run.grows_pure _
    · exact grows_createIfMissing.map

theorem grows_plan (c : Connector) (flag : SetupStatus) (text : String) (o : Options) :
    (c.plan flag text o).Grows := by
  rintro w ⟨x, c', flag'⟩ w' h
  cases Connector.plan_eq_ok.1 h with
  | direct => exact List.prefix_refl _
  | setUp _ ensure => exact grows_ensure _ _ _ _ _ _ ensure

theorem grows_refresh (s : Token.Source) : s.refresh.Grows := by
  unfold Token.Source.refresh
  refine Run.grows_now.bind fun now => ?_
  split
  · exact Run.grows_pure _
  · refine (Run.grows_call _ _ _ _).bind fun answer => Run.grows_charsets.bind fun charsets => ?_
    split
    · exact Run.grows_pure _
    · exact Run.grows_now.bind fun now => (Run.grows_date _).bind fun _ => Run.grows_pure _

theorem grows_access (s : Token.Source) : s.access.Grows := by
  unfold Token.Source.access
  split
  · exact grows_refresh s
  · refine Run.grows_now.bind fun now => (Run.grows_date _).bind fun expired => ?_
    split
    · exact grows_refresh s
    · exact Run.grows_pure _

theorem grows_submitWithRefresh (s : Token.Source) (detector : ExpiryDetector) (p : Http.Payload)
    (headers : Http.Headers) : (Token.submitWithRefresh s detector p headers).Grows := by
  unfold Token.submitWithRefresh
  refine (grows_submit p headers).bind fun first => ?_
  dsimp only
  split
  · exact Run.grows_pure _
  · refine (grows_refresh s).bind fun token => ?_
    split
    · exact Run.grows_pure _
    · refine (grows_submit p _).bind fun second => ?_
      split
      · exact Run.grows_pure _
      · exact Run.grows_pure _

theorem grows_headers (c : Connector) : c.headers.Grows := by
  unfold Connector.headers
  split <;> first | exact Run.grows_pure _ | exact (grows_access _).bind fun _ => Run.grows_pure _

theorem grows_send (c : Connector) (p : Http.Payload) (h : Http.Headers) : (c.send p h).Grows := by
  unfold Connector.send
  split
  · exact (grows_submitWithRefresh _ _ p h).bind fun _ => Run.grows_pure _
  · exact (grows_submit p h).bind fun _ => Run.grows_pure _

/-! ### Steps that call, and steps that do not -/

variable {w w' : World}

/-- More calls are on record than before. -/
def World.CallsMore (w w' : World) : Prop := w.peer.calls.length < w'.peer.calls.length

theorem World.CallsMore.followed {w₁ : World} (h : w.CallsMore w₁)
    (grows : w₁.peer.calls <+: w'.peer.calls) : w.CallsMore w' :=
  Nat.lt_of_lt_of_le h grows.length_le

theorem World.CallsMore.preceded {w₁ : World} (h : w₁.CallsMore w')
    (grows : w.peer.calls <+: w₁.peer.calls) : w.CallsMore w' :=
  Nat.lt_of_le_of_lt grows.length_le h

theorem World.CallsMore.ne (h : w.CallsMore w') : w'.peer.calls ≠ w.peer.calls :=
  fun same => Nat.ne_of_lt h (congrArg List.length same).symm

theorem callsMore_of_callable {method : Http.Method} {url : String} {headers : Http.Headers}
    {body : Http.Body} {a : Except Http.CallError Http.Answer}
    (callable : Http.isCallable url = true)
    (h : Run.call method url headers body w = .ok (a, w')) : w.CallsMore w' := by
  obtain ⟨-, rfl⟩ := Run.call_eq_ok.1 h
  obtain ⟨c, hc⟩ := Http.calls_of_callable callable method headers body w.peer
  unfold World.CallsMore
  rw [hc, List.length_append]
  exact Nat.lt_add_one _

/-- An answer is on record. -/
theorem callsMore_of_answer {method : Http.Method} {url : String} {headers : Http.Headers}
    {body : Http.Body} {a : Http.Answer}
    (h : Run.call method url headers body w = .ok (.ok a, w')) : w.CallsMore w' := by
  cases callable : Http.isCallable url with
  | true => exact callsMore_of_callable callable h
  | false =>
    obtain ⟨ha, -⟩ := Run.call_eq_ok.1 h
    obtain ⟨e, he⟩ := Http.call_of_not_callable callable method headers body w.peer
    rw [he] at ha
    cases ha

theorem Http.defect?_ne_success {body : Http.Body} {status : UInt16} {content : ByteArray} :
    body.defect? ≠ some (.success status content) := by
  unfold Http.Body.defect?
  split
  · split <;> exact nofun
  · exact nofun

/-- A payload that cannot be sent is reported at once, and any other one is sent by one call. -/
theorem Http.submit_eq_ok {p : Http.Payload} {headers : Http.Headers} {d : Delivery}
    (h : Http.submit p headers w = .ok (d, w')) :
    (p.body.defect? = some d ∧ w' = w) ∨
      (p.body.defect? = none ∧ ∃ a, Delivery.ofCall a = d ∧
        Run.call p.method p.url (p.body.sentHeaders headers) p.body w = .ok (a, w')) := by
  unfold Http.submit at h
  cases defect : p.body.defect? with
  | some d₀ =>
    rw [defect] at h
    obtain ⟨rfl, rfl⟩ := Run.pure_eq_ok.1 h
    exact .inl ⟨rfl, rfl⟩
  | none =>
    rw [defect] at h
    obtain ⟨a, called, outcome⟩ := Run.map_eq_ok.1 h
    exact .inr ⟨rfl, a, outcome, called⟩

theorem callsMore_of_submit {p : Http.Payload} {headers : Http.Headers} {status : UInt16}
    {body : ByteArray} (h : Http.submit p headers w = .ok (.success status body, w')) :
    w.CallsMore w' := by
  rcases Http.submit_eq_ok h with ⟨defect, -⟩ | ⟨-, a, outcome, called⟩
  · exact absurd defect Http.defect?_ne_success
  · cases a with
    | error e => cases outcome
    | ok a => exact callsMore_of_answer called

/-- The first page is fetched, and then the others. -/
theorem fetchAll_cons_eq_ok {url : String} {rest : List String} {pages : List (String × String)} :
    Page.fetchAll (url :: rest) w = .ok (pages, w') ↔ ∃ answer w₁ others,
      Run.call .get url [] .empty w = .ok (answer, w₁) ∧
      Page.fetchAll rest w₁ = .ok (others, w') ∧
      ((Page.text? w₁.charsets answer).map (url, ·)).toList ++ others = pages := by
  rw [Page.fetchAll]
  simp only [Run.bind_eq_ok, Run.charsets_bind]
  refine exists_congr fun answer => exists_congr fun w₁ => ?_
  constructor
  · rintro ⟨called, others, w₂, fetched, kept⟩
    refine ⟨others, called, ?_⟩
    cases contributed : Page.text? w₁.charsets answer with
    | none =>
      rw [contributed] at kept
      obtain ⟨rfl, rfl⟩ := Run.pure_eq_ok.1 kept
      exact ⟨fetched, rfl⟩
    | some text =>
      rw [contributed] at kept
      obtain ⟨rfl, rfl⟩ := Run.pure_eq_ok.1 kept
      exact ⟨fetched, rfl⟩
  · rintro ⟨others, called, fetched, rfl⟩
    refine ⟨called, others, w', fetched, ?_⟩
    cases Page.text? w₁.charsets answer <;> rfl

theorem fetchAll_of_uncallable {urls : List String}
    (h : ∀ url ∈ urls, Http.isCallable url = false) : Page.fetchAll urls w = .ok ([], w) := by
  induction urls with
  | nil => rfl
  | cons url rest ih =>
    obtain ⟨e, he⟩ := Http.call_of_not_callable (h url List.mem_cons_self) .get [] .empty w.peer
    have called : Run.call .get url [] .empty w = .ok (.error e, w) := by
      rw [Run.call_eq_ok, he]
      exact ⟨rfl, rfl⟩
    exact fetchAll_cons_eq_ok.2
      ⟨_, w, [], called, ih fun url hu => h url (List.mem_cons_of_mem _ hu), rfl⟩

theorem exists_fetchAll (urls : List String) (w : World) :
    ∃ pages w', Page.fetchAll urls w = .ok (pages, w') := by
  induction urls generalizing w with
  | nil => exact ⟨[], w, rfl⟩
  | cons url rest ih =>
    obtain ⟨others, w', h⟩ := ih { w with peer := (Http.call .get url [] .empty w.peer).2 }
    exact ⟨_, w', fetchAll_cons_eq_ok.2 ⟨_, _, others, Run.call_eq_ok.2 ⟨rfl, rfl⟩, h, rfl⟩⟩

theorem callsMore_of_fetchAll {urls : List String} {pages : List (String × String)}
    (callable : ∃ url ∈ urls, Http.isCallable url = true)
    (h : Page.fetchAll urls w = .ok (pages, w')) : w.CallsMore w' := by
  induction urls generalizing w pages with
  | nil =>
    obtain ⟨_, hu, -⟩ := callable
    cases hu
  | cons url rest ih =>
    obtain ⟨a, w₁, others, ha, hrest, -⟩ := fetchAll_cons_eq_ok.1 h
    obtain ⟨u, hu, callable⟩ := callable
    rcases List.mem_cons.1 hu with rfl | hu
    · exact (callsMore_of_callable callable ha).followed (grows_fetchAll rest _ _ _ hrest)
    · exact (ih ⟨u, hu, callable⟩ hrest).preceded (Run.grows_call _ _ _ _ _ _ _ ha)

theorem callsMore_of_createIfMissing {i : Instance}
    (h : VectorStore.createIfMissing i w = .ok (.ok (), w')) : w.CallsMore w' := by
  unfold VectorStore.createIfMissing at h
  cases hh : VectorStore.headers i with
  | error f => rw [hh] at h; cases (Run.pure_eq_ok.1 h).1
  | ok headers =>
    rw [hh] at h
    obtain ⟨d, w₁, hd, h⟩ := Run.bind_eq_ok.1 h
    cases d with
    | failure code message details body => cases (Run.pure_eq_ok.1 h).1
    | success status body =>
      refine (callsMore_of_submit hd).followed ?_
      cases listed : VectorStore.readListing (.success status body) with
      | error f => rw [listed] at h; cases (Run.pure_eq_ok.1 h).1
      | ok v =>
        rw [listed] at h
        dsimp only at h
        cases lists : VectorStore.lists (VectorStore.collection i) v with
        | true =>
          rw [lists] at h
          obtain ⟨-, rfl⟩ := Run.pure_eq_ok.1 h
          exact List.prefix_refl _
        | false =>
          rw [lists] at h
          obtain ⟨d', w₂, hd', h⟩ := Run.bind_eq_ok.1 h
          obtain ⟨-, rfl⟩ := Run.pure_eq_ok.1 h
          exact grows_submit _ _ _ _ _ hd'

/-- A backend that is set up only now has been asked. -/
theorem callsMore_of_ensure {i : Instance} {state state' : BackendState} {flag flag' : SetupStatus}
    (unready : state ≠ .ready)
    (h : VectorStore.ensure i state flag w = .ok ((.ok (), state', flag'), w')) :
    w.CallsMore w' := by
  unfold VectorStore.ensure at h
  cases flag with
  | failed code => cases (Run.pure_eq_ok.1 h).1
  | ok =>
    dsimp only at h
    rw [if_neg unready] at h
    obtain ⟨fault, hc, hs⟩ := Run.map_eq_ok.1 h
    obtain rfl : fault = .ok () := by
      cases fault with
      | ok => rfl
      | error e => cases e <;> cases hs
    exact callsMore_of_createIfMissing hc

theorem callsMore_of_submitWithRefresh {s s' : Token.Source} {detector : ExpiryDetector}
    {p : Http.Payload} {headers : Http.Headers} {status : UInt16} {body : ByteArray}
    (h : Token.submitWithRefresh s detector p headers w =
      .ok ((.success status body, s'), w')) : w.CallsMore w' := by
  unfold Token.submitWithRefresh at h
  obtain ⟨first, w₁, hfirst, h⟩ := Run.bind_eq_ok.1 h
  dsimp only at h
  cases expired : Token.isExpiry detector first with
  | false =>
    rw [expired] at h
    obtain ⟨hd, rfl⟩ := Run.pure_eq_ok.1 h
    cases hd
    exact callsMore_of_submit hfirst
  | true =>
    rw [expired] at h
    obtain ⟨⟨token, s₁⟩, w₂, htoken, h⟩ := Run.bind_eq_ok.1 h
    dsimp only at h
    cases bearer : token.bind (Token.bearer · headers) with
    | error f => rw [bearer] at h; cases (Run.pure_eq_ok.1 h).1
    | ok headers' =>
      rw [bearer] at h
      obtain ⟨second, w₃, hsecond, h⟩ := Run.bind_eq_ok.1 h
      have before := (grows_submit _ _ _ _ _ hfirst).trans (grows_refresh s _ _ _ htoken)
      cases rejected : Token.isExpiry detector second with
      | true => simp only [rejected] at h; cases (Run.pure_eq_ok.1 h).1
      | false =>
        simp only [rejected] at h
        obtain ⟨hd, rfl⟩ := Run.pure_eq_ok.1 h
        cases hd
        exact (callsMore_of_submit hsecond).preceded before

theorem callsMore_of_send {c c' : Connector} {p : Http.Payload} {headers : Http.Headers}
    {status : UInt16} {body : ByteArray}
    (h : c.send p headers w = .ok ((.success status body, c'), w')) : w.CallsMore w' := by
  unfold Connector.send at h
  cases binding : c.binding with
  | imagen tokens detector =>
    rw [binding] at h
    obtain ⟨⟨d, tokens⟩, w₁, hd, h⟩ := Run.bind_eq_ok.1 h
    obtain ⟨hx, rfl⟩ := Run.pure_eq_ok.1 h
    cases hx
    exact callsMore_of_submitWithRefresh hd
  | _ =>
    rw [binding] at h
    obtain ⟨d, w₁, hd, h⟩ := Run.bind_eq_ok.1 h
    obtain ⟨hx, rfl⟩ := Run.pure_eq_ok.1 h
    cases hx
    exact callsMore_of_submit hd

end PromptBroker
