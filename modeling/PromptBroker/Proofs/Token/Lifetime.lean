import PromptBroker.Proofs.Token.Cache

/-!
# Lifetimes that end

The endpoint says how long a token lasts, and any number of seconds will do: nothing
compares it with the time that there is. The end of a lifetime is reckoned as a date, and
beyond the last date there is none (`Grant.Ends`). A refresh returns, with a token or with
a failure, exactly if no lifetime is granted that runs past it; otherwise it breaks down
(`Source.refresh_returns_iff`).
-/

namespace PromptBroker

namespace Moment

variable {m : Moment} {n : Int}

theorem isDate_iff : m.isDate = true ↔ firstSecond ≤ m.seconds ∧ m.seconds ≤ lastSecond := by
  simp [isDate]

/-- Whole seconds are added to whole seconds. -/
theorem seconds_add (m : Moment) (n : Int) :
    seconds ⟨m.nanoseconds + n * 1000000000⟩ = m.seconds + n :=
  Int.add_mul_ediv_right _ _ (by decide)

/-- A later moment is a date if neither the way there is too long nor its second off the range. -/
theorem isSome_after?_iff : (m.after? n).isSome = true ↔
    (-longestSeconds ≤ n ∧ n ≤ longestSeconds) ∧
      firstSecond ≤ m.seconds + n ∧ m.seconds + n ≤ lastSecond := by
  have later := isDate_iff (m := ⟨m.nanoseconds + n * 1000000000⟩)
  rw [seconds_add] at later
  rw [← later, after?]
  simp only [Bool.and_eq_true, decide_eq_true_eq]
  split
  · next h => simpa using h
  · next h => simpa using h

end Moment

namespace Token

/-- The lifetime ends: it is no longer than any length of time, and it is over within the range of
dates. A negative one is over at once. -/
def Grant.Ends (g : Grant) (now : Moment) : Prop :=
  max g.lifetime 0 ≤ Moment.longestSeconds ∧
    Moment.firstSecond ≤ now.seconds + max g.lifetime 0 ∧
    now.seconds + max g.lifetime 0 ≤ Moment.lastSecond

variable {g : Grant} {now : Moment}

theorem Grant.ends_iff_isSome : g.Ends now ↔ (g.expiry? now).isSome = true := by
  rw [expiry?, Moment.isSome_after?_iff, Ends]
  simp only [Moment.longestSeconds]
  omega

/-- From a date on, only the last date can be too early. -/
theorem Grant.ends_iff (date : now.isDate = true) :
    g.Ends now ↔ now.seconds + max g.lifetime 0 ≤ Moment.lastSecond := by
  obtain ⟨first, last⟩ := Moment.isDate_iff.1 date
  rw [Ends]
  simp only [Moment.firstSecond, Moment.lastSecond, Moment.longestSeconds] at first last ⊢
  omega

namespace Source

variable {s : Source} {w w₁ : World} {answer : Except Http.CallError Http.Answer}

/-- What is granted is kept up to the end of its lifetime. -/
theorem refresh_of_ends (exchanges : s.Exchanges w answer w₁) (grants : Grants answer g)
    (ends : g.Ends w₁.moment) :
    s.refresh w = .ok ((.ok g.token, { s with kept := some (g.kept w₁.moment) }), w₁.readClock) ∧
      (g.kept w₁.moment).expiresAt.isDate = true := by
  obtain ⟨expiry, dated⟩ := Option.isSome_iff_exists.1 (Grant.ends_iff_isSome.1 ends)
  have returned := Refreshes.run_eq (.granted exchanges (granted_eq_ok.2 grants) dated)
  rw [Moment.eq_of_after? dated] at returned
  refine ⟨returned, Moment.isDate_iff.2 ?_⟩
  rw [Grant.kept, Moment.seconds_add]
  exact ends.2

/-- A lifetime without end breaks the refresh down. -/
theorem refresh_of_not_ends (exchanges : s.Exchanges w answer w₁) (grants : Grants answer g)
    (endless : ¬g.Ends w₁.moment) : s.refresh w = .error .dateOutOfRange := by
  rw [Grant.ends_iff_isSome, Option.not_isSome_iff_eq_none] at endless
  exact GrantsUndated.run_eq ⟨answer, g, w₁, exchanges, granted_eq_ok.2 grants, endless⟩

theorem exists_refresh_iff : (∃ t s' w', s.refresh w = .ok ((t, s'), w')) ↔
    ∀ answer g w₁, s.Exchanges w answer w₁ → Grants answer g → g.Ends w₁.moment := by
  constructor
  · rintro ⟨t, s', w', returned⟩ answer g w₁ exchanges grants
    refine Classical.byContradiction fun endless => ?_
    cases returned.symm.trans (refresh_of_not_ends exchanges grants endless)
  · intro ends
    rcases refreshes_or_grantsUndated s w with ⟨t, s', w', refreshes⟩ | undated
    · exact ⟨t, s', w', refreshes.run_eq⟩
    · obtain ⟨answer, g, w₁, exchanges, grants, undated⟩ := undated
      have dated := ends answer g w₁ exchanges (granted_eq_ok.1 grants)
      rw [Grant.ends_iff_isSome, undated] at dated
      cases dated

/-- Whatever the endpoint answers, and at any time, a refresh returns exactly if no lifetime is
granted that runs past the last date. A token that is granted is kept up to the end of its
lifetime, which is a date, and if there is no such date the refresh breaks down. -/
theorem refresh_returns_iff (s : Source) (w : World) :
    ((∃ t s' w', s.refresh w = .ok ((t, s'), w')) ↔
      ∀ answer g w₁, s.Exchanges w answer w₁ → Grants answer g → g.Ends w₁.moment) ∧
    (∀ answer g w₁, s.Exchanges w answer w₁ → Grants answer g →
      (g.Ends w₁.moment → s.refresh w =
        .ok ((.ok g.token, { s with kept := some (g.kept w₁.moment) }), w₁.readClock) ∧
          (g.kept w₁.moment).expiresAt.isDate = true) ∧
      (¬g.Ends w₁.moment → s.refresh w = .error .dateOutOfRange)) ∧
    ∀ g : Grant, ∀ now : Moment, now.isDate = true →
      (g.Ends now ↔ now.seconds + max g.lifetime 0 ≤ Moment.lastSecond) :=
  ⟨exists_refresh_iff, fun _ _ _ exchanges grants =>
    ⟨refresh_of_ends exchanges grants, refresh_of_not_ends exchanges grants⟩,
    fun _ _ => Grant.ends_iff⟩

/-- Not every refresh returns: the endpoint may name the largest number of seconds that there is. -/
theorem not_forall_refresh_returns : ¬∀ (s : Source) (w : World), ∃ t s' w',
    s.refresh w = .ok ((t, s'), w') := by
  intro returns
  have stops : ((Source.mk Sample.account none).refresh
      (.answering [Sample.granting 0x7FFFFFFFFFFFFFFF])).toOption.isSome = false := by
    decide +kernel
  obtain ⟨t, s', w', returned⟩ :=
    returns ⟨Sample.account, none⟩ (.answering [Sample.granting 0x7FFFFFFFFFFFFFFF])
  rw [returned] at stops
  cases stops

end Source

end Token

end PromptBroker
