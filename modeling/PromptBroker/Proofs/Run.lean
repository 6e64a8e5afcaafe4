import PromptBroker.Broker.Request

/-!
# Runs that return

A run either returns, with a value and the world as it is afterwards, or breaks
down. A run put together from steps returns exactly if its steps do, one after the
other; the same holds of actions, which pass on the broker as well. These laws take
a run apart into its steps, and put it together again.
-/

namespace PromptBroker

variable {α β : Type} {w w' : World}

/-- A name has been drawn. -/
def World.drawName (w : World) : World := { w with drawn := w.drawn + 1 }

/-! ### Runs -/

namespace Run

theorem bind_eq_ok {x : Run α} {f : α → Run β} {r : β × World} :
    (x >>= f) w = .ok r ↔ ∃ a w₁, x w = .ok (a, w₁) ∧ f a w₁ = .ok r := by
  show (x w >>= fun s => f s.1 s.2) = .ok r ↔ _
  cases x w with
  | error e => simp [bind, Except.bind]
  | ok s =>
    constructor
    · exact fun h => ⟨s.1, s.2, rfl, h⟩
    · rintro ⟨a, w₁, hx, hf⟩
      cases hx
      exact hf

theorem bind_of_ok {x : Run α} {f : α → Run β} {a : α} (h : x w = .ok (a, w')) :
    (x >>= f) w = f a w' := by
  show (x w >>= fun s => f s.1 s.2) = _
  rw [h]
  rfl

theorem bind_of_error {x : Run α} {f : α → Run β} {e : Breakdown} (h : x w = .error e) :
    (x >>= f) w = .error e := by
  show (x w >>= fun s => f s.1 s.2) = _
  rw [h]
  rfl

@[simp] theorem pure_eq_ok {a a' : α} :
    (pure a : Run α) w = .ok (a', w') ↔ a = a' ∧ w = w' := by
  show Except.ok (a, w) = .ok (a', w') ↔ _
  simp

theorem map_eq_ok {g : α → β} {x : Run α} {c : β} :
    (g <$> x) w = .ok (c, w') ↔ ∃ a, x w = .ok (a, w') ∧ g a = c := by
  rw [map_eq_pure_bind, bind_eq_ok]
  constructor
  · rintro ⟨a, w₁, hx, hc⟩
    obtain ⟨rfl, rfl⟩ := pure_eq_ok.1 hc
    exact ⟨a, hx, rfl⟩
  · rintro ⟨a, hx, rfl⟩
    exact ⟨a, w', hx, pure_eq_ok.2 ⟨rfl, rfl⟩⟩

/-- The run returns in every world. -/
def Returns (x : Run α) : Prop := ∀ w, ∃ a w', x w = .ok (a, w')

theorem returns_pure (a : α) : Returns (pure a) := fun w => ⟨a, w, rfl⟩

theorem Returns.bind {x : Run α} {f : α → Run β} (hx : Returns x) (hf : ∀ a, Returns (f a)) :
    Returns (x >>= f) := fun w => by
  obtain ⟨a, w₁, ha⟩ := hx w
  obtain ⟨b, w₂, hb⟩ := hf a w₁
  exact ⟨b, w₂, bind_eq_ok.2 ⟨a, w₁, ha, hb⟩⟩

theorem Returns.map {x : Run α} (g : α → β) (hx : Returns x) : Returns (g <$> x) := fun w => by
  obtain ⟨a, w₁, ha⟩ := hx w
  exact ⟨g a, w₁, map_eq_ok.2 ⟨a, ha, rfl⟩⟩

@[simp] theorem charsets_bind {f : Text.Charsets → Run β} :
    (charsets >>= f) w = f w.charsets w := rfl

@[simp] theorem freshName_eq_ok {a : Uuid} :
    freshName w = .ok (a, w') ↔ w.names w.drawn = a ∧ w.drawName = w' := by
  show Except.ok (w.names w.drawn, w.drawName) = .ok (a, w') ↔ _
  simp

end Run

/-! ### Actions -/

namespace Action

variable {b b' : Broker}

theorem bind_eq_ok {x : Action α} {f : α → Action β} {r : (β × Broker) × World} :
    (x >>= f) b w = .ok r ↔ ∃ a b₁ w₁, x b w = .ok ((a, b₁), w₁) ∧ f a b₁ w₁ = .ok r := by
  show (x b >>= fun s => f s.1 s.2) w = .ok r ↔ _
  rw [Run.bind_eq_ok]
  constructor
  · rintro ⟨⟨a, b₁⟩, w₁, hx, hf⟩
    exact ⟨a, b₁, w₁, hx, hf⟩
  · rintro ⟨a, b₁, w₁, hx, hf⟩
    exact ⟨(a, b₁), w₁, hx, hf⟩

@[simp] theorem pure_eq_ok {a a' : α} :
    (pure a : Action α) b w = .ok ((a', b'), w') ↔ a = a' ∧ b = b' ∧ w = w' := by
  show Except.ok ((a, b), w) = .ok ((a', b'), w') ↔ _
  simp [and_assoc]

@[simp] theorem get_bind {f : Broker → Action β} :
    ((get : Action Broker) >>= f) b w = f b b w := rfl

@[simp] theorem set_bind {c : Broker} {f : PUnit → Action β} :
    ((set c : Action PUnit) >>= f) b w = f ⟨⟩ c w := rfl

@[simp] theorem modify_bind {g : Broker → Broker} {f : PUnit → Action β} :
    ((modify g : Action PUnit) >>= f) b w = f ⟨⟩ (g b) w := rfl

@[simp] theorem modifyGet_bind {g : Broker → α × Broker} {f : α → Action β} :
    ((modifyGet g : Action α) >>= f) b w = f (g b).1 (g b).2 w := rfl

/-- What a run does inside an action leaves the broker alone. -/
theorem lift_bind_eq_ok {x : Run α} {f : α → Action β} {r : (β × Broker) × World} :
    ((liftM x : Action α) >>= f) b w = .ok r ↔ ∃ a w₁, x w = .ok (a, w₁) ∧ f a b w₁ = .ok r := by
  rw [bind_eq_ok]
  show (∃ a b₁ w₁, (x >>= fun a => pure (a, b)) w = .ok ((a, b₁), w₁) ∧ _) ↔ _
  simp only [Run.bind_eq_ok]
  constructor
  · rintro ⟨a, b₁, w₁, ⟨c, w₂, hx, hc⟩, hf⟩
    cases Run.pure_eq_ok.1 hc with
    | intro hc hw =>
      cases hc
      cases hw
      exact ⟨a, w₁, hx, hf⟩
  · rintro ⟨a, w₁, hx, hf⟩
    exact ⟨a, b, w₁, ⟨a, w₁, hx, rfl⟩, hf⟩

theorem bind_of_ok {x : Action α} {f : α → Action β} {a : α} (h : x b w = .ok ((a, b'), w')) :
    (x >>= f) b w = f a b' w' := by
  show (x b >>= fun s => f s.1 s.2) w = _
  show (x b w >>= fun s => f s.1.1 s.1.2 s.2) = _
  rw [h]
  rfl

theorem bind_of_error {x : Action α} {f : α → Action β} {e : Breakdown} (h : x b w = .error e) :
    (x >>= f) b w = .error e := by
  show (x b w >>= fun s => f s.1.1 s.1.2 s.2) = _
  rw [h]
  rfl

theorem lift_bind_of_ok {x : Run α} {f : α → Action β} {a : α} (h : x w = .ok (a, w')) :
    ((liftM x : Action α) >>= f) b w = f a b w' := by
  refine bind_of_ok ?_
  show (x >>= fun a => pure (a, b)) w = _
  exact Run.bind_eq_ok.2 ⟨a, w', h, rfl⟩

theorem lift_bind_of_error {x : Run α} {f : α → Action β} {e : Breakdown} (h : x w = .error e) :
    ((liftM x : Action α) >>= f) b w = .error e := by
  refine bind_of_error ?_
  show (x >>= fun a => pure (a, b)) w = _
  exact Run.bind_of_error h

end Action

end PromptBroker
