import Mathlib.Data.List.Forall2
import PromptBroker.Proofs.Run

/-!
# What a step can fail with

The kind of a failure tells how far a request came. Each step on the way of a request
fails with few kinds only: making a connector with internal failures, the check of
the options with an invalid parameter, and everything that comes after the payload
with neither an invalid parameter nor an exceeded quota.
-/

namespace PromptBroker

/-- If the outcome is a failure, its kind is one of the list. -/
def Outcome.FailsWith {α : Type} (x : Outcome α) (kinds : List Failure.Kind) : Prop :=
  ∀ f, x = .error f → f.kind ∈ kinds

namespace Outcome

variable {α β : Type} {kinds : List Failure.Kind}

theorem bind_eq_ok {x : Outcome α} {g : α → Outcome β} {b : β} :
    x >>= g = .ok b ↔ ∃ a, x = .ok a ∧ g a = .ok b := by
  cases x with
  | error f => exact ⟨nofun, nofun⟩
  | ok a =>
    constructor
    · exact fun h => ⟨a, rfl, h⟩
    · rintro ⟨_, ⟨⟩, h⟩
      exact h

theorem failsWith_ok (a : α) : FailsWith (.ok a) kinds := nofun

theorem failsWith_error {f : Failure} (h : f.kind ∈ kinds) :
    FailsWith (.error f : Outcome α) kinds := by
  rintro _ ⟨⟩
  exact h

theorem FailsWith.mono {x : Outcome α} {more : List Failure.Kind} (h : FailsWith x kinds)
    (hsub : kinds ⊆ more) : FailsWith x more :=
  fun f hf => hsub (h f hf)

/-- A failure that is passed on. -/
theorem FailsWith.error {x : Outcome α} {f : Failure} {more : List Failure.Kind}
    (h : FailsWith x kinds) (hf : x = .error f) (hsub : kinds ⊆ more) :
    FailsWith (.error f : Outcome β) more :=
  failsWith_error (hsub (h f hf))

theorem FailsWith.bind {x : Outcome α} {g : α → Outcome β} (hx : FailsWith x kinds)
    (hg : ∀ a, x = .ok a → FailsWith (g a) kinds) : FailsWith (x >>= g) kinds := by
  intro f hf
  cases x with
  | error e => exact hx f (by cases hf; rfl)
  | ok a => exact hg a rfl f hf

theorem FailsWith.map {x : Outcome α} {g : α → β} (hx : FailsWith x kinds) :
    FailsWith (x.map g) kinds := by
  intro f hf
  cases x with
  | error e => exact hx f (by cases hf; rfl)
  | ok a => cases hf

theorem failsWith_ite {p : Prop} [Decidable p] {x y : Outcome α} (hx : p → FailsWith x kinds)
    (hy : ¬p → FailsWith y kinds) : FailsWith (if p then x else y) kinds := by
  split
  · exact hx ‹_›
  · exact hy ‹_›

/-- A list comes out if every element does, each at its place. -/
theorem mapM_eq_ok {g : α → Outcome β} {l : List α} {bs : List β} :
    l.mapM g = .ok bs ↔ List.Forall₂ (fun a b => g a = .ok b) l bs := by
  induction l generalizing bs with
  | nil =>
    rw [List.mapM_nil, List.forall₂_nil_left_iff]
    constructor
    · rintro ⟨⟩
      rfl
    · rintro rfl
      rfl
  | cons a l ih =>
    rw [List.mapM_cons, bind_eq_ok]
    constructor
    · rintro ⟨b, hb, rest⟩
      obtain ⟨bs', hbs, rest⟩ := bind_eq_ok.1 rest
      cases rest
      exact .cons hb (ih.1 hbs)
    · rintro (_ | ⟨hb, hbs⟩)
      exact ⟨_, hb, bind_eq_ok.2 ⟨_, ih.2 hbs, rfl⟩⟩

theorem exists_of_mapM_eq_error {g : α → Outcome β} {l : List α} {f : Failure}
    (h : l.mapM g = .error f) : ∃ a ∈ l, g a = .error f := by
  induction l with
  | nil => cases h
  | cons a l ih =>
    rw [List.mapM_cons] at h
    cases ha : g a with
    | error e =>
      rw [ha] at h
      cases h
      exact ⟨a, List.mem_cons_self, ha⟩
    | ok b =>
      rw [ha] at h
      cases hl : l.mapM g with
      | error e =>
        rw [hl] at h
        cases h
        obtain ⟨a', ha', hf⟩ := ih hl
        exact ⟨a', List.mem_cons_of_mem a ha', hf⟩
      | ok bs => rw [hl] at h; cases h

theorem exists_mapM_eq_error {g : α → Outcome β} {l : List α} {a : α} {e : Failure} (ha : a ∈ l)
    (he : g a = .error e) : ∃ f, l.mapM g = .error f := by
  induction l with
  | nil => cases ha
  | cons d l ih =>
    rw [List.mapM_cons]
    cases hd : g d with
    | error e' => exact ⟨e', rfl⟩
    | ok b =>
      rcases List.mem_cons.1 ha with rfl | ha
      · rw [hd] at he
        cases he
      · obtain ⟨f, hf⟩ := ih ha
        rw [hf]
        exact ⟨f, rfl⟩

theorem FailsWith.mapM {g : α → Outcome β} {l : List α} (hg : ∀ a ∈ l, FailsWith (g a) kinds) :
    FailsWith (l.mapM g) kinds := by
  intro f hf
  obtain ⟨a, ha, hf⟩ := exists_of_mapM_eq_error hf
  exact hg a ha f hf

end Outcome

open Outcome

/-! ### Connectors -/

theorem failsWith_validate (i : Instance) : FailsWith i.validate [.internal] := by
  unfold Instance.validate
  split
  · exact failsWith_error (by simp [Failure.kind])
  · exact failsWith_ok ()

theorem failsWith_read (text : String) :
    FailsWith (Token.ServiceAccount.read text) [.internal] := by
  unfold Token.ServiceAccount.read
  split
  · exact failsWith_error (by simp [Token.ServiceAccount.unreadable, Failure.kind])
  · split
    · exact failsWith_error (by simp [Token.ServiceAccount.unreadable, Failure.kind])
    · exact failsWith_ite (fun _ => failsWith_error (by simp [Failure.kind]))
        fun _ => failsWith_ok _

theorem failsWith_account (service : Token.ServiceAccount) (scope : String) :
    FailsWith (Token.Account.of service scope) [.internal] := by
  unfold Token.Account.of
  split
  · exact failsWith_ok _
  · exact failsWith_error (by simp [Failure.kind])

theorem failsWith_binding (i : Instance) : FailsWith (Binding.ofInstance i) [.internal] := by
  unfold Binding.ofInstance
  cases i.provider with
  | imagen =>
    dsimp only
    unfold Binding.ofAccount
    split
    · exact failsWith_error (by simp [Failure.kind])
    · exact (failsWith_read _).bind fun service _ =>
        (failsWith_account service _).bind fun account _ => failsWith_ok _
  | _ => exact failsWith_ok _

theorem failsWith_ofInstance (i : Instance) : FailsWith (Connector.ofInstance i) [.internal] :=
  (failsWith_validate i).bind fun _ _ => (failsWith_binding i).bind fun _ _ => failsWith_ok _

/-! ### Options -/

theorem failsWith_schema_validate (s : Schema) (raw : Options) :
    FailsWith (s.validate raw) [.invalidParameter] := by
  induction raw with
  | nil => exact failsWith_ok []
  | cons e rest ih =>
    obtain ⟨key, v⟩ := e
    unfold Schema.validate
    split
    · exact failsWith_error (by simp [Failure.kind])
    · refine failsWith_ite (fun _ => ih) fun _ => ?_
      unfold Schema.coerce
      split
      · next h =>
        split at h <;> cases h
        exact failsWith_error (by simp [Failure.kind])
      · exact ih.map

theorem failsWith_checkTemperature (o : Options) :
    FailsWith (Purpose.checkTemperature o) [.invalidParameter] := by
  unfold Purpose.checkTemperature
  split
  · exact failsWith_ite (fun _ => failsWith_ok ()) fun _ => failsWith_error (by simp [Failure.kind])
  · exact failsWith_ok ()

theorem failsWith_retrievalAction (o : Options) :
    FailsWith (RetrievalAction.ofOptions o) [.invalidParameter] := by
  unfold RetrievalAction.ofOptions
  split
  · unfold RetrievalAction.parse
    dsimp only
    split
    · exact failsWith_ok _
    · exact failsWith_error (by simp [Failure.kind])
  · exact failsWith_ok _

theorem failsWith_completeTranscription (o : Options) :
    FailsWith (Purpose.completeTranscription o) [.invalidParameter] := by
  unfold Purpose.completeTranscription
  dsimp only
  split
  · exact failsWith_ite (fun _ => failsWith_ok _) fun _ => failsWith_ok _
  · refine failsWith_ite (fun _ => ?_) fun _ => ?_
    · exact failsWith_ite (fun _ => failsWith_ok _) fun _ => failsWith_ok _
    · exact failsWith_error (by simp [Failure.kind])

theorem failsWith_completeImageDescription (o : Options) :
    FailsWith (Purpose.completeImageDescription o) [.invalidParameter] := by
  unfold Purpose.completeImageDescription
  split
  · exact failsWith_error (by simp [Failure.kind])
  · split
    · exact failsWith_ok o
    · exact failsWith_error (by simp [Failure.kind])

theorem failsWith_completeRetrieval (o : Options) :
    FailsWith (Purpose.completeRetrieval o) [.invalidParameter] := by
  have storable (action : RetrievalAction) (o : Options) :
      FailsWith (if action = .store && !Purpose.hasStoreId o then
        .error (.invalidParameter "metadata" "storing content requires metadata.id") else pure o)
        [.invalidParameter] :=
    failsWith_ite (fun _ => failsWith_error (by simp [Failure.kind])) fun _ => failsWith_ok o
  refine (failsWith_retrievalAction o).bind fun action _ => ?_
  dsimp only
  split
  · exact storable action _
  · exact failsWith_ite (fun _ => failsWith_error (by simp [Failure.kind]))
      fun _ => storable action _

theorem failsWith_complete (p : Purpose) (fresh : Uuid) (o : Options) :
    FailsWith (p.complete fresh o) [.invalidParameter] := by
  cases p with
  | transcription => exact failsWith_completeTranscription o
  | imageDescription => exact failsWith_completeImageDescription o
  | retrieval => exact failsWith_completeRetrieval o
  | _ => exact failsWith_ok _

theorem failsWith_sanitize (p : Purpose) (fresh : Uuid) (raw : Options) :
    FailsWith (p.sanitize fresh raw) [.invalidParameter] := by
  refine (failsWith_schema_validate p.schema raw).bind fun o _ => ?_
  dsimp only
  split
  · exact (failsWith_checkTemperature o).bind fun _ _ => failsWith_complete p fresh o
  · exact failsWith_complete p fresh o

/-! ### Headers -/

theorem failsWith_bearerHeaders (key : String) : FailsWith (Http.bearerHeaders key) [.internal] :=
  failsWith_ite (fun _ => failsWith_ok _) fun _ => failsWith_error (by simp [Failure.kind])

theorem failsWith_apiKeyHeaders (key : String) : FailsWith (Http.apiKeyHeaders key) [.internal] :=
  failsWith_ite (fun _ => failsWith_ok _) fun _ => failsWith_error (by simp [Failure.kind])

theorem failsWith_ollamaHeaders (i : Instance) :
    FailsWith (Connector.ollamaHeaders i) [.internal] := by
  unfold Connector.ollamaHeaders
  split
  · exact failsWith_bearerHeaders _
  · exact failsWith_ok _

theorem failsWith_openaiHeaders (i : Instance) :
    FailsWith (Connector.openaiHeaders i) [.internal] :=
  failsWith_ite (fun _ => failsWith_apiKeyHeaders _) fun _ => failsWith_bearerHeaders _

theorem failsWith_vectorStoreHeaders (i : Instance) :
    FailsWith (VectorStore.headers i) [.internal] := by
  unfold VectorStore.headers
  split
  · exact failsWith_apiKeyHeaders _
  · exact failsWith_ok _

theorem failsWith_assertion (a : Token.Account) (now : Moment) :
    FailsWith (a.assertion now) [.internal] := by
  unfold Token.Account.assertion
  dsimp only
  split
  · exact failsWith_ok _
  · exact failsWith_error (by simp [Failure.kind])

theorem failsWith_granted (charsets : Text.Charsets)
    (answer : Except Http.CallError Http.Answer) :
    FailsWith (Token.Source.granted charsets answer) [.transportError] := by
  unfold Token.Source.granted
  split
  · exact failsWith_error (by simp [Failure.kind])
  · split
    · split
      · exact failsWith_ok _
      · exact failsWith_error (by simp [Failure.kind])
    · exact failsWith_error (by simp [Failure.kind])

theorem failsWith_bearer (token : String) (h : Http.Headers) :
    FailsWith (Token.bearer token h) [.internal] :=
  failsWith_ite (fun _ => failsWith_ok _) fun _ => failsWith_error (by simp [Failure.kind])

/-- Whatever the run returns, a failure in it has one of the kinds. -/
def Run.FailsWith {α β : Type} (x : Run (Outcome α × β)) (kinds : List Failure.Kind) : Prop :=
  ∀ w a b w', x w = .ok ((a, b), w') → Outcome.FailsWith a kinds

theorem Run.failsWith_pure {α β : Type} {a : Outcome α} {kinds : List Failure.Kind}
    (h : Outcome.FailsWith a kinds) (b : β) : Run.FailsWith (pure (a, b)) kinds := by
  intro w a' b' w' hw
  obtain ⟨hab, -⟩ := Run.pure_eq_ok.1 hw
  cases hab
  exact h

theorem Run.failsWith_bind {α β γ : Type} {x : Run γ} {f : γ → Run (Outcome α × β)}
    {kinds : List Failure.Kind} (h : ∀ c, Run.FailsWith (f c) kinds) :
    Run.FailsWith (x >>= f) kinds := by
  intro w a b w' hw
  obtain ⟨c, w₁, -, hw⟩ := Run.bind_eq_ok.1 hw
  exact h c w₁ a b w' hw

theorem failsWith_refresh (s : Token.Source) :
    Run.FailsWith s.refresh [.internal, .transportError] := by
  unfold Token.Source.refresh
  refine Run.failsWith_bind fun now => ?_
  split
  · next h => exact Run.failsWith_pure ((failsWith_assertion _ _).error h (by simp)) _
  · refine Run.failsWith_bind fun answer => Run.failsWith_bind fun charsets => ?_
    split
    · next h => exact Run.failsWith_pure ((failsWith_granted _ _).error h (by simp)) _
    · exact Run.failsWith_bind fun now => Run.failsWith_bind fun _ =>
        Run.failsWith_pure (failsWith_ok _) _

theorem failsWith_access (s : Token.Source) :
    Run.FailsWith s.access [.internal, .transportError] := by
  unfold Token.Source.access
  split
  · exact failsWith_refresh s
  · refine Run.failsWith_bind fun now => Run.failsWith_bind fun expired => ?_
    split
    · exact failsWith_refresh s
    · exact Run.failsWith_pure (failsWith_ok _) _

theorem failsWith_headers (c : Connector) :
    Run.FailsWith c.headers [.internal, .transportError] := by
  have internal {x : Outcome Http.Headers} (h : FailsWith x [.internal]) :
      Run.FailsWith (pure (x, c)) [.internal, .transportError] :=
    Run.failsWith_pure (h.mono (by simp)) c
  unfold Connector.headers
  cases c.binding with
  | ollama => exact internal (failsWith_ollamaHeaders _)
  | dalle | whisper | voice | embeddings => exact internal (failsWith_openaiHeaders _)
  | qdrant state => exact internal (failsWith_vectorStoreHeaders _)
  | imagen tokens detector =>
    intro w x c' w' h
    obtain ⟨⟨token, tokens⟩, w₁, htoken, h⟩ := Run.bind_eq_ok.1 h
    obtain ⟨hx, -⟩ := Run.pure_eq_ok.1 h
    cases hx
    refine (failsWith_access _ _ _ _ _ htoken).bind fun token _ => ?_
    exact (failsWith_bearer token _).mono (by simp)

/-! ### Backends -/

theorem failsWith_readListing (d : Delivery) :
    FailsWith (VectorStore.readListing d) [.transportError, .malformedResponse] := by
  unfold VectorStore.readListing
  split
  · exact failsWith_error (by simp [Failure.kind])
  · split
    · exact failsWith_ok _
    · exact failsWith_error (by simp [Failure.kind])

theorem kind_of_unavailable {i : Instance} {f : Failure} {w w' : World}
    (h : VectorStore.createIfMissing i w = .ok (.error (.unavailable f), w')) :
    f.kind ∈ [Failure.Kind.internal, .transportError, .malformedResponse] := by
  unfold VectorStore.createIfMissing at h
  cases headers : VectorStore.headers i with
  | error e =>
    rw [headers] at h
    cases (Run.pure_eq_ok.1 h).1
    exact (failsWith_vectorStoreHeaders i).mono (by simp) f headers
  | ok headers' =>
    rw [headers] at h
    obtain ⟨d, w₁, -, h⟩ := Run.bind_eq_ok.1 h
    cases listed : VectorStore.readListing d with
    | error e =>
      rw [listed] at h
      cases (Run.pure_eq_ok.1 h).1
      exact (failsWith_readListing d).mono (by simp) f listed
    | ok v =>
      rw [listed] at h
      dsimp only at h
      cases lists : VectorStore.lists (VectorStore.collection i) v with
      | true => rw [lists] at h; cases (Run.pure_eq_ok.1 h).1
      | false =>
        rw [lists] at h
        obtain ⟨d', w₂, -, h⟩ := Run.bind_eq_ok.1 h
        have created := (Run.pure_eq_ok.1 h).1
        cases d' <;> cases created

theorem failsWith_ensure (i : Instance) (state : BackendState) (flag : SetupStatus) :
    Run.FailsWith (VectorStore.ensure i state flag)
      [.internal, .transportError, .malformedResponse] := by
  unfold VectorStore.ensure
  split
  · exact Run.failsWith_pure (failsWith_error (by simp [Failure.kind])) _
  · split
    · exact Run.failsWith_pure (failsWith_ok _) _
    · intro w x s w' h
      obtain ⟨result, hc, hs⟩ := Run.map_eq_ok.1 h
      rcases result with (f | f) | ok
      · cases hs
        exact failsWith_error (kind_of_unavailable hc)
      · cases hs
        exact failsWith_error (by simp [Failure.kind])
      · cases hs
        exact failsWith_ok _

/-! ### Answers -/

theorem failsWith_readJson (body : ByteArray) :
    FailsWith (Content.readJson body) [.malformedResponse] := by
  unfold Content.readJson
  split
  · exact failsWith_ok _
  · exact failsWith_error (by simp [Failure.kind])

theorem failsWith_readFile (encoded : String) :
    FailsWith (Picture.readFile encoded) [.malformedResponse] := by
  unfold Picture.readFile
  split
  · exact failsWith_ok _
  · exact failsWith_error (by simp [Failure.kind])

theorem failsWith_readVector (text : String) :
    FailsWith (Embedding.readVector text) [.malformedResponse] := by
  refine failsWith_ite (fun _ => failsWith_error (by simp [Failure.kind])) fun _ => ?_
  refine FailsWith.mapM fun part _ => ?_
  unfold Embedding.readEntry
  dsimp only
  split
  · exact failsWith_ok _
  · exact failsWith_error (by simp [Failure.kind])

/-- An answer that cannot be used is the provider's fault, provided that the options name an
action that a vector store knows. -/
theorem failsWith_decode (c : Connector) (body : ByteArray) {o : Options}
    (ho : ∀ state, c.binding = .qdrant state → ∃ action, RetrievalAction.ofOptions o = .ok action) :
    FailsWith (c.decode body o) [.malformedResponse, .providerError] := by
  have readJson : FailsWith (Content.readJson body) [.malformedResponse, .providerError] :=
    (failsWith_readJson body).mono (by simp)
  unfold Connector.decode
  cases hb : c.binding <;> dsimp only
  case ollama =>
    refine readJson.bind fun v _ => ?_
    split
    · exact failsWith_error (by simp [Failure.kind])
    · exact failsWith_ok _
  case dalle =>
    refine readJson.bind fun v _ => ?_
    split
    · exact failsWith_error (by simp [Failure.kind])
    · exact (failsWith_readFile _).mono (by simp)
  case whisper =>
    unfold Transcription.decode
    dsimp only
    split
    · exact readJson.bind fun v _ => failsWith_ok _
    · exact failsWith_ok _
  case voice =>
    exact failsWith_ite (fun _ => failsWith_error (by simp [Failure.kind])) fun _ => failsWith_ok _
  case imagen tokens detector =>
    refine readJson.bind fun v _ => ?_
    split
    · exact failsWith_error (by simp [Failure.kind])
    · exact (failsWith_readFile _).mono (by simp)
  case embeddings =>
    refine readJson.bind fun v _ => ?_
    split
    · exact failsWith_error (by simp [Failure.kind])
    · split
      · exact failsWith_error (by simp [Failure.kind])
      · exact failsWith_ok _
  case qdrant state =>
    refine readJson.bind fun v _ => ?_
    obtain ⟨action, ho⟩ := ho state hb
    rw [ho]
    cases action <;> exact failsWith_ok _

end PromptBroker
