import PromptBroker.Proofs.Submission

/-!
# Obtaining a new token

A refresh signs an assertion, exchanges it for a token and notes when the token expires.
`Refreshes` lists the ways in which it returns: there may be no assertion, the endpoint
may grant nothing, or there is a new token, which is kept. At most one request goes on
record, and which one can be told beforehand from the account and the clock
(`Source.request?`).

A refresh does not return if the end of the granted lifetime is no date. Nothing else
stops it (`refresh_eq_error`). The kept token saves the refresh for as long as it is good
(`Accesses`), but its age may be as hard to tell (`BreaksIn`).
-/

namespace PromptBroker

/-- The clock has been read. -/
def World.readClock (w : World) : World := { w with readings := w.readings + 1 }

namespace Token.Source

variable {s s' : Source} {t : Outcome String} {w w₁ w' : World}

/-- The request for a new token at a moment, if it can be made. -/
def request? (s : Source) (now : Moment) : Option Http.Request :=
  match s.account.assertion now with
  | .error _ => none
  | .ok assertion => Http.request? .post s.account.service.exchangeUrl [] (.form (form assertion))

/-- A new token can be asked for if an assertion can be signed and the endpoint can be called. -/
theorem isSome_request?_iff {now : Moment} : (s.request? now).isSome = true ↔
    (∃ assertion, s.account.assertion now = .ok assertion) ∧
      Http.isCallable s.account.service.exchangeUrl = true := by
  unfold request?
  cases s.account.assertion now with
  | error e => simp
  | ok assertion => simp [Http.isSome_request?]

/-- An assertion is signed and sent to the endpoint, which answers or does not. -/
def Exchanges (s : Source) (w : World) (answer : Except Http.CallError Http.Answer)
    (w' : World) : Prop :=
  ∃ assertion, s.account.assertion w.moment = .ok assertion ∧
    Run.call .post s.account.service.exchangeUrl [] (.form (form assertion)) w.readClock =
      .ok (answer, w')

/-- How a refresh returns: what comes of it, and the source as it is afterwards. -/
inductive Refreshes (s : Source) (w : World) : Outcome String → Source → World → Prop
  /-- No assertion can be made. -/
  | unsigned {e} (unsigned : s.account.assertion w.moment = .error e) :
      Refreshes s w (.error e) s w.readClock
  /-- The endpoint grants nothing. -/
  | refused {answer e w₁} (exchanges : s.Exchanges w answer w₁)
      (refused : granted w₁.charsets answer = .error e) : Refreshes s w (.error e) s w₁
  /-- There is a new token, and it is kept. -/
  | granted {answer g expiry w₁} (exchanges : s.Exchanges w answer w₁)
      (grants : Source.granted w₁.charsets answer = .ok g)
      (dated : g.expiry? w₁.moment = some expiry) :
      Refreshes s w (.ok g.token) { s with kept := some ⟨g.token, expiry⟩ } w₁.readClock

/-- The endpoint grants a token whose end is no date. -/
def GrantsUndated (s : Source) (w : World) : Prop :=
  ∃ answer g w₁, s.Exchanges w answer w₁ ∧ granted w₁.charsets answer = .ok g ∧
    g.expiry? w₁.moment = none

/-- The same, with the world in which this becomes clear. -/
def GrantsUndatedIn (s : Source) (w w' : World) : Prop :=
  ∃ answer g w₁, s.Exchanges w answer w₁ ∧ granted w₁.charsets answer = .ok g ∧
    g.expiry? w₁.moment = none ∧ w₁.readClock = w'

theorem grantsUndated_iff : s.GrantsUndated w ↔ ∃ w', s.GrantsUndatedIn w w' := by
  constructor
  · rintro ⟨answer, g, w₁, exchanges, grants, undated⟩
    exact ⟨_, answer, g, w₁, exchanges, grants, undated, rfl⟩
  · rintro ⟨w', answer, g, w₁, exchanges, grants, undated, -⟩
    exact ⟨answer, g, w₁, exchanges, grants, undated⟩

/-! ### Every refresh -/

theorem now_eq (w : World) : Run.now w = .ok (w.moment, w.readClock) := rfl

theorem refresh_of_unsigned {e : Failure} (unsigned : s.account.assertion w.moment = .error e) :
    s.refresh w = .ok ((.error e, s), w.readClock) := by
  unfold refresh
  rw [Run.bind_of_ok (now_eq w), unsigned]
  rfl

namespace Exchanges

variable {answer : Except Http.CallError Http.Answer} (h : s.Exchanges w answer w₁)

include h

theorem refresh_of_refused {e : Failure} (refused : granted w₁.charsets answer = .error e) :
    s.refresh w = .ok ((.error e, s), w₁) := by
  obtain ⟨assertion, signed, called⟩ := h
  unfold refresh
  rw [Run.bind_of_ok (now_eq w), signed]
  dsimp only
  rw [Run.bind_of_ok called, Run.charsets_bind, refused]
  rfl

/-- What is left to do once the endpoint has granted a token. -/
theorem refresh_of_granted {g : Grant} (grants : granted w₁.charsets answer = .ok g) :
    s.refresh w = (do
      let expiry ← Run.date (g.expiry? w₁.moment)
      pure (Except.ok g.token, { s with kept := some ⟨g.token, expiry⟩ })) w₁.readClock := by
  obtain ⟨assertion, signed, called⟩ := h
  unfold refresh
  rw [Run.bind_of_ok (now_eq w), signed]
  dsimp only
  rw [Run.bind_of_ok called, Run.charsets_bind, grants]
  rfl

end Exchanges

theorem Refreshes.run_eq (h : Refreshes s w t s' w') : s.refresh w = .ok ((t, s'), w') := by
  cases h with
  | unsigned unsigned => exact refresh_of_unsigned unsigned
  | refused exchanges refused => exact exchanges.refresh_of_refused refused
  | granted exchanges grants dated =>
    rw [exchanges.refresh_of_granted grants, dated]
    rfl

theorem GrantsUndated.run_eq (h : s.GrantsUndated w) : s.refresh w = .error .dateOutOfRange := by
  obtain ⟨answer, g, w₁, exchanges, grants, undated⟩ := h
  rw [exchanges.refresh_of_granted grants, undated]
  rfl

/-- Every refresh goes one of these ways. -/
theorem refreshes_or_grantsUndated (s : Source) (w : World) :
    (∃ t s' w', Refreshes s w t s' w') ∨ s.GrantsUndated w := by
  cases signed : s.account.assertion w.moment with
  | error e => exact .inl ⟨_, _, _, .unsigned signed⟩
  | ok assertion =>
    obtain ⟨answer, w₁, called⟩ := Http.returns_call .post s.account.service.exchangeUrl []
      (.form (form assertion)) w.readClock
    have exchanges : s.Exchanges w answer w₁ := ⟨assertion, signed, called⟩
    cases grants : granted w₁.charsets answer with
    | error e => exact .inl ⟨_, _, _, .refused exchanges grants⟩
    | ok g =>
      cases dated : g.expiry? w₁.moment with
      | some expiry => exact .inl ⟨_, _, _, .granted exchanges grants dated⟩
      | none => exact .inr ⟨answer, g, w₁, exchanges, grants, dated⟩

theorem refresh_eq_ok : s.refresh w = .ok ((t, s'), w') ↔ Refreshes s w t s' w' := by
  refine ⟨fun returned => ?_, Refreshes.run_eq⟩
  rcases refreshes_or_grantsUndated s w with ⟨t₀, s₀, w₀, refreshes⟩ | undated
  · cases refreshes.run_eq.symm.trans returned
    exact refreshes
  · cases undated.run_eq.symm.trans returned

theorem refresh_eq_error {e : Breakdown} : s.refresh w = .error e ↔ s.GrantsUndated w := by
  refine ⟨fun broken => ?_, fun undated => ?_⟩
  · rcases refreshes_or_grantsUndated s w with ⟨t₀, s₀, w₀, refreshes⟩ | undated
    · cases refreshes.run_eq.symm.trans broken
    · exact undated
  · cases e
    exact undated.run_eq

/-! ### What goes on record -/

theorem Exchanges.records {answer : Except Http.CallError Http.Answer}
    (h : s.Exchanges w answer w₁) : w.Records w₁ (s.request? w.moment).toList := by
  obtain ⟨assertion, signed, called⟩ := h
  have recorded := Http.records_call called
  unfold request?
  rw [signed]
  exact recorded

theorem Refreshes.records (h : Refreshes s w t s' w') :
    w.Records w' (s.request? w.moment).toList := by
  cases h with
  | unsigned unsigned =>
    unfold request?
    rw [unsigned]
    exact .refl w
  | refused exchanges => exact exchanges.records
  | granted exchanges => exact exchanges.records

theorem GrantsUndatedIn.records (h : s.GrantsUndatedIn w w') :
    w.Records w' (s.request? w.moment).toList := by
  obtain ⟨answer, g, w₁, exchanges, -, -, rfl⟩ := h
  exact exchanges.records

/-- Whatever becomes of the token, the account stays. -/
theorem Refreshes.account_eq (h : Refreshes s w t s' w') : s'.account = s.account := by
  cases h <;> rfl

/-! ### The kept token -/

/-- A token that has not expired is handed out again. -/
theorem access_of_fresh {kept : AccessToken} (h : s.kept = some kept)
    (fresh : kept.isExpired? w.moment = some false) :
    s.access w = .ok ((.ok kept.text, s), w.readClock) := by
  unfold access
  rw [h]
  dsimp only
  rw [Run.bind_of_ok (now_eq w), fresh]
  rfl

/-- There is no token to hand out again. The clock has been asked if one is kept. -/
inductive Lacks (s : Source) (w : World) : World → Prop
  | absent (absent : s.kept = none) : Lacks s w w
  | expired {kept} (h : s.kept = some kept) (expired : kept.isExpired? w.moment = some true) :
      Lacks s w w.readClock

/-- How a token is handed out. -/
inductive Accesses (s : Source) (w : World) : Outcome String → Source → World → Prop
  /-- The kept one is good. -/
  | fresh {kept} (h : s.kept = some kept) (fresh : kept.isExpired? w.moment = some false) :
      Accesses s w (.ok kept.text) s w.readClock
  /-- A new one is needed. -/
  | renewed {w₁ w' : World} {t s'} (lacks : s.Lacks w w₁) (refreshes : s.Refreshes w₁ t s' w') :
      Accesses s w t s' w'

/-- How it can break down: the age of the kept token cannot be told, or the new one has no end. -/
inductive BreaksIn (s : Source) (w : World) : World → Prop
  | ageless {kept} (h : s.kept = some kept) (ageless : kept.isExpired? w.moment = none) :
      BreaksIn s w w.readClock
  | undated {w₁ w' : World} (lacks : s.Lacks w w₁) (undated : s.GrantsUndatedIn w₁ w') :
      BreaksIn s w w'

theorem Lacks.access_eq (h : s.Lacks w w₁) : s.access w = s.refresh w₁ := by
  unfold access
  cases h with
  | absent absent => rw [absent]
  | expired kept expired =>
    rw [kept]
    dsimp only
    rw [Run.bind_of_ok (now_eq w), expired]
    rfl

theorem Accesses.run_eq (h : s.Accesses w t s' w') : s.access w = .ok ((t, s'), w') := by
  cases h with
  | fresh kept fresh => exact access_of_fresh kept fresh
  | renewed lacks refreshes => exact lacks.access_eq.trans refreshes.run_eq

theorem BreaksIn.run_eq (h : s.BreaksIn w w') : s.access w = .error .dateOutOfRange := by
  cases h with
  | ageless kept ageless =>
    unfold access
    rw [kept]
    dsimp only
    rw [Run.bind_of_ok (now_eq w), ageless]
    rfl
  | undated lacks undated =>
    exact lacks.access_eq.trans (grantsUndated_iff.2 ⟨_, undated⟩).run_eq

theorem accesses_or_breaksIn (s : Source) (w : World) :
    (∃ t s' w', s.Accesses w t s' w') ∨ ∃ w', s.BreaksIn w w' := by
  have lacking {w₁ : World} (lacks : s.Lacks w w₁) :
      (∃ t s' w', s.Accesses w t s' w') ∨ ∃ w', s.BreaksIn w w' := by
    rcases refreshes_or_grantsUndated s w₁ with ⟨t, s', w', refreshes⟩ | undated
    · exact .inl ⟨t, s', w', .renewed lacks refreshes⟩
    · obtain ⟨w', undated⟩ := grantsUndated_iff.1 undated
      exact .inr ⟨w', .undated lacks undated⟩
  cases h : s.kept with
  | none => exact lacking (.absent h)
  | some kept =>
    cases expired : kept.isExpired? w.moment with
    | none => exact .inr ⟨_, .ageless h expired⟩
    | some expired' =>
      cases expired' with
      | false => exact .inl ⟨_, _, _, .fresh h expired⟩
      | true => exact lacking (.expired h expired)

theorem access_eq_ok : s.access w = .ok ((t, s'), w') ↔ s.Accesses w t s' w' := by
  refine ⟨fun returned => ?_, Accesses.run_eq⟩
  rcases accesses_or_breaksIn s w with ⟨t₀, s₀, w₀, accesses⟩ | ⟨w₀, breaks⟩
  · cases accesses.run_eq.symm.trans returned
    exact accesses
  · cases breaks.run_eq.symm.trans returned

theorem Lacks.records (h : s.Lacks w w₁) : w.Records w₁ [] := by
  cases h <;> exact .refl w

/-- Handing out a token takes at most one request, which is one for a token. -/
theorem Accesses.records (h : s.Accesses w t s' w') : ∃ asked : Option Http.Request,
    w.Records w' asked.toList ∧ ∀ r ∈ asked, ∃ now, s.request? now = some r := by
  cases h with
  | fresh => exact ⟨none, .refl w, nofun⟩
  | renewed lacks refreshes =>
    exact ⟨_, lacks.records.trans refreshes.records, fun r asked => ⟨_, asked⟩⟩

theorem BreaksIn.records (h : s.BreaksIn w w') : ∃ asked : Option Http.Request,
    w.Records w' asked.toList ∧ ∀ r ∈ asked, ∃ now, s.request? now = some r := by
  cases h with
  | ageless => exact ⟨none, .refl w, nofun⟩
  | undated lacks undated =>
    exact ⟨_, lacks.records.trans undated.records, fun r asked => ⟨_, asked⟩⟩

theorem Accesses.account_eq (h : s.Accesses w t s' w') : s'.account = s.account := by
  cases h with
  | fresh => rfl
  | renewed _ refreshes => exact refreshes.account_eq

end Token.Source

end PromptBroker
