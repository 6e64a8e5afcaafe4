import PromptBroker.Proofs.Resanitize

/-!
# What is filled in

A purpose fills in what the caller left out, and it takes for left out what it cannot
read. So the question is whether everything that the schema lets through can be read
again. Text can, unless it is empty, and so can floats. Whole numbers are read as signed
64-bit words, while the schema lets a number through up to the unsigned 64-bit range: an
item id or a number of hits from the upper half of that range is *overlooked*, and the
default takes its place. Everything else that was sent is kept
(`keeps_iff_of_sanitize`), and nothing comes in under any other key.
-/

namespace PromptBroker.Purpose

open Schema (Settled IsOf settled_of_validate)

variable {α : Type} {p : Purpose} {fresh : Uuid} {raw c o s : Options}
  {key other stem extension : String} {v value : Json}

/-! ### What can be read -/

/-- Settled options hold a value of the declared type under each key. -/
theorem isOf_of_settled {schema : Schema} {type : ParamType} (settled : Settled schema o)
    (sent : o.get? key = some v) (declared : Keyed.get? key schema = some type) :
    IsOf type v := by
  have entry : (key, v) ∈ o := by
    obtain ⟨before, after, rfl, -⟩ := List.lookup_eq_some_iff.1 sent
    simp
  obtain ⟨type', declared', typed⟩ := settled _ entry
  cases declared.symm.trans declared'
  exact typed

/-- A whole number above the signed 64-bit range. -/
def IsOversized (v : Json) : Prop :=
  ∃ n : Json.Whole, v = .number (.whole n) ∧ 0x7FFFFFFFFFFFFFFF < n.value

theorem not_isOversized_ofInt {n : Int} (lower : -0x8000000000000000 ≤ n)
    (upper : n ≤ 0x7FFFFFFFFFFFFFFF) : ¬IsOversized (Json.ofInt n) := by
  have fits : -0x8000000000000000 ≤ n ∧ n ≤ 0xFFFFFFFFFFFFFFFF := ⟨lower, by omega⟩
  rw [Json.ofInt, Json.Whole.ofInt?, dif_pos fits]
  rintro ⟨_, ⟨⟩, above⟩
  dsimp only at above
  omega

theorem isSome_int? (typed : IsOf .int v) (sent : o.get? key = some v) :
    (o.int? key).isSome ↔ ¬IsOversized v := by
  obtain ⟨n⟩ := typed
  have read : o.int? key = if n.value ≤ 0x7FFFFFFFFFFFFFFF then some n.value else none := by
    rw [Options.int?, sent]
    rfl
  constructor
  · rintro present ⟨n', same, above⟩
    cases same
    rw [read, if_neg (by omega)] at present
    cases present
  · intro fits
    have below : n.value ≤ 0x7FFFFFFFFFFFFFFF :=
      Int.not_lt.1 fun above => fits ⟨n, rfl, above⟩
    rw [read, if_pos below]
    rfl

theorem isSome_float? (typed : IsOf .float v) (sent : o.get? key = some v) :
    (o.float? key).isSome := by
  obtain ⟨x, finite⟩ := typed
  rw [Options.float?, sent]
  rfl

theorem isSome_text? (typed : IsOf .text v) (sent : o.get? key = some v)
    (ne : v ≠ .string "") : (o.text? key).isSome := by
  cases typed with
  | @text t plain =>
    have ne : t ≠ "" := fun empty => ne (congrArg Json.string empty)
    rw [Options.text?_eq_some.2 ⟨sent, ne⟩]
    rfl

/-! ### Gaps -/

/-- Filling a gap changes nothing under other keys, and nothing where something can be read. -/
theorem get?_fillGap (read : Options → Option α) (present : other = key → (read o).isSome) :
    (fillGap (read o).isNone key value o).get? other = o.get? other := by
  by_cases same : other = key
  · rw [fillGap_of_isSome read (present same)]
  · simp [same]

/-- Where nothing can be read, the default is put in. -/
theorem get?_fillGap_self (read : Options → Option α) (gap : ¬(read o).isSome) :
    (fillGap (read o).isNone key value o).get? key = some value := by
  rw [fillGap, Option.not_isSome_iff_eq_none.1 gap, Option.isNone_none]
  simp

theorem text?_withItem : (withItem o).text? "filename" = o.text? "filename" := by
  simp [Options.text?, withItem]

theorem get?_withFileTarget (item : key = "itemid" → (o.int? "itemid").isSome)
    (name : key = "filename" → (o.text? "filename").isSome) :
    (withFileTarget stem extension fresh o).get? key = o.get? key := by
  rw [withFileTarget_eq, get?_fillGap (Options.text? "filename") (by rwa [text?_withItem])]
  exact get?_fillGap (Options.int? "itemid") item

theorem itemid_withFileTarget (gap : ¬(o.int? "itemid").isSome) :
    (withFileTarget stem extension fresh o).get? "itemid" = some (Json.ofInt 0) := by
  simpa [withFileTarget_eq, withItem] using get?_fillGap_self (Options.int? "itemid") gap

theorem get?_completeTranscription (h : completeTranscription o = .ok s)
    (format : key = "response_format" → (o.text? "response_format").isSome)
    (temperature : key = "temperature" → (o.float? "temperature").isSome) :
    s.get? key = o.get? key := by
  obtain ⟨-, rfl⟩ := completeTranscription_eq_ok.1 h
  have unmoved : (withFormat o).float? "temperature" = o.float? "temperature" := by
    simp [Options.float?, withFormat]
  rw [withTemperature, get?_fillGap (Options.float? "temperature") (by rwa [unmoved])]
  exact get?_fillGap (Options.text? "response_format") format

/-- The number of hits is read after the action has been put in. -/
theorem int?_insert_action (name : String) :
    (o.insert "action" (.string name)).int? "topk" = o.int? "topk" := by
  simp [Options.int?]

theorem get?_completeRetrieval (h : completeRetrieval o = .ok s) (ne : key ≠ "action")
    (hits : key = "topk" → (o.int? "topk").isSome) : s.get? key = o.get? key := by
  obtain ⟨action, rfl, -⟩ := completeRetrieval_ready h
  rw [withHits, get?_fillGap (Options.int? "topk") (by rwa [int?_insert_action])]
  simp [ne]

theorem topk_completeRetrieval (h : completeRetrieval o = .ok s)
    (gap : ¬(o.int? "topk").isSome) : s.get? "topk" = some (Json.ofInt 1) := by
  obtain ⟨action, rfl, -⟩ := completeRetrieval_ready h
  exact get?_fillGap_self (Options.int? "topk") (by rwa [int?_insert_action])

/-- An action that was sent is the one that stands there, under its own name. -/
theorem action_completeRetrieval (h : completeRetrieval o = .ok s) {text : String}
    (sent : o.text? "action" = some text) :
    ∃ action : RetrievalAction, RetrievalAction.parse text = .ok action ∧
      s.get? "action" = some (.string action.name) := by
  have named : RetrievalAction.ofOptions o = RetrievalAction.parse text := by
    rw [RetrievalAction.ofOptions, sent]
  cases parsed : RetrievalAction.parse text with
  | error f =>
    rw [completeRetrieval, named, parsed] at h
    cases h
  | ok action =>
    obtain ⟨-, ready⟩ := completeRetrieval_ready_of (named.trans parsed) h
    exact ⟨action, rfl, ready.named⟩

/-! ### Every purpose -/

/-- The options that a purpose fills in. -/
def filledKeys : Purpose → List String
  | .transcription => ["response_format", "temperature"]
  | .speech | .imageGeneration => ["itemid", "filename"]
  | .retrieval => ["action", "topk"]
  | _ => []

/-- The option that a purpose fills in with a whole number. -/
def countedKey? : Purpose → Option String
  | .speech | .imageGeneration => some "itemid"
  | .retrieval => some "topk"
  | _ => none

/-- What was sent is taken for left out, although the schema let it through. -/
def Overlooks (p : Purpose) (key : String) (v : Json) : Prop :=
  p.countedKey? = some key ∧ IsOversized v

/-- What was sent stands there as it is; the action of a retrieval under its own name. -/
def Keeps (p : Purpose) (key : String) (v : Json) (s : Options) : Prop :=
  if p = .retrieval ∧ key = "action" then
    ∃ (text : String) (action : RetrievalAction), v = .string text ∧
      RetrievalAction.parse text = .ok action ∧ s.get? key = some (.string action.name)
  else s.get? key = some v

theorem get?_complete_of_not_mem (completed : p.complete fresh c = .ok s)
    (other : key ∉ p.filledKeys) : s.get? key = c.get? key := by
  have ne {k : String} (filled : k ∈ p.filledKeys) : key ≠ k := by
    rintro rfl
    exact other filled
  cases p with
  | transcription =>
    exact get?_completeTranscription completed (fun same => absurd same (ne (by decide)))
      fun same => absurd same (ne (by decide))
  | speech | imageGeneration =>
    cases completed
    exact get?_withFileTarget (fun same => absurd same (ne (by decide)))
      fun same => absurd same (ne (by decide))
  | retrieval =>
    exact get?_completeRetrieval completed (ne (by decide))
      fun same => absurd same (ne (by decide))
  | imageDescription =>
    cases completeImageDescription_eq_ok completed
    rfl
  | _ =>
    cases completed
    rfl

/-- What can be read again is kept. -/
theorem keeps_of_complete (settled : Settled p.schema c) (completed : p.complete fresh c = .ok s)
    (sent : c.get? key = some v) (ne : v ≠ .string "") (noticed : ¬Overlooks p key v) :
    Keeps p key v s := by
  have typed {type : ParamType} (declared : Keyed.get? key p.schema = some type) : IsOf type v :=
    isOf_of_settled settled sent declared
  unfold Keeps
  cases p with
  | transcription =>
    rw [if_neg (by simp)]
    refine (get?_completeTranscription completed ?_ ?_).trans sent
    · rintro rfl
      exact isSome_text? (typed rfl) sent ne
    · rintro rfl
      exact isSome_float? (typed rfl) sent
  | speech | imageGeneration =>
    cases completed
    rw [if_neg (by simp)]
    refine (get?_withFileTarget ?_ ?_).trans sent
    · rintro rfl
      exact (isSome_int? (typed rfl) sent).2 fun above => noticed ⟨rfl, above⟩
    · rintro rfl
      exact isSome_text? (typed rfl) sent ne
  | retrieval =>
    by_cases named : key = "action"
    · subst named
      rw [if_pos ⟨rfl, rfl⟩]
      cases typed rfl with
      | @text t plain =>
        have ne : t ≠ "" := fun empty => ne (congrArg Json.string empty)
        have read : c.text? "action" = some t := Options.text?_eq_some.2 ⟨sent, ne⟩
        obtain ⟨action, parsed, stands⟩ := action_completeRetrieval completed read
        exact ⟨t, action, rfl, parsed, stands⟩
    · rw [if_neg (by simp [named])]
      refine (get?_completeRetrieval completed named ?_).trans sent
      rintro rfl
      exact (isSome_int? (typed rfl) sent).2 fun above => noticed ⟨rfl, above⟩
  | imageDescription =>
    cases completeImageDescription_eq_ok completed
    rwa [if_neg (by simp)]
  | _ =>
    cases completed
    rwa [if_neg (by simp)]

/-- The default takes the place of what is overlooked. -/
theorem not_keeps_of_overlooks (settled : Settled p.schema c)
    (completed : p.complete fresh c = .ok s) (sent : c.get? key = some v)
    (overlooked : Overlooks p key v) : ¬Keeps p key v s := by
  obtain ⟨counted, oversized⟩ := overlooked
  have typed {type : ParamType} (declared : Keyed.get? key p.schema = some type) : IsOf type v :=
    isOf_of_settled settled sent declared
  unfold Keeps
  cases p with
  | speech | imageGeneration =>
    cases counted
    cases completed
    have gap : ¬(c.int? "itemid").isSome := by simpa [isSome_int? (typed rfl) sent] using oversized
    rw [if_neg (by simp), itemid_withFileTarget gap]
    rintro ⟨⟩
    exact not_isOversized_ofInt (by decide) (by decide) oversized
  | retrieval =>
    cases counted
    have gap : ¬(c.int? "topk").isSome := by simpa [isSome_int? (typed rfl) sent] using oversized
    rw [if_neg (by simp), topk_completeRetrieval completed gap]
    rintro ⟨⟩
    exact not_isOversized_ofInt (by decide) (by decide) oversized
  | _ => cases counted

/-- Whatever was sent under any key, empty text apart, is kept by every purpose unless it is
overlooked; and what stands under a key that was not sent is one of the defaults. -/
theorem keeps_iff_of_sanitize (accepted : p.sanitize fresh raw = .ok s) :
    ∃ c, p.schema.validate raw = .ok c ∧
      (∀ key v, c.get? key = some v → v ≠ .string "" → (Keeps p key v s ↔ ¬Overlooks p key v)) ∧
      ∀ key, c.get? key = none → (s.get? key).isSome → key ∈ p.filledKeys := by
  obtain ⟨c, valid, -, completed⟩ := sanitize_eq_ok.1 accepted
  have settled : Settled p.schema c := settled_of_validate valid
  refine ⟨c, valid, fun key v sent ne => ⟨fun kept overlooked => ?_, ?_⟩, ?_⟩
  · exact not_keeps_of_overlooks settled completed sent overlooked kept
  · exact keeps_of_complete settled completed sent ne
  · intro key absent present
    refine Decidable.byContradiction fun other => ?_
    rw [get?_complete_of_not_mem completed other, absent] at present
    cases present

/-! ### A number of the upper half -/

/-- The first number above the signed 64-bit range. -/
def oversized : Json := .number (.whole ⟨0x8000000000000000, by decide, by decide⟩)

/-- Options for a spoken text whose item is beyond what is read. -/
def oversizedTarget : Options := [("filename", .string "a.mp3"), ("itemid", oversized)]

theorem keeps_iff_of_sanitize_oversized :
    sanitize .speech ⟨15, by decide⟩ oversizedTarget =
        .ok [("filename", .string "a.mp3"), ("itemid", Json.ofInt 0)] ∧
      ∃ c, (schema .speech).validate oversizedTarget = .ok c ∧
        (∀ key v, c.get? key = some v → v ≠ .string "" →
          (Keeps .speech key v [("filename", .string "a.mp3"), ("itemid", Json.ofInt 0)] ↔
            ¬Overlooks .speech key v)) ∧
        ∀ key, c.get? key = none →
          (Options.get? key
            [("filename", .string "a.mp3"), ("itemid", Json.ofInt 0)]).isSome →
          key ∈ filledKeys .speech := by
  have accepted : sanitize .speech ⟨15, by decide⟩ oversizedTarget =
      .ok [("filename", .string "a.mp3"), ("itemid", Json.ofInt 0)] := by
    with_unfolding_all rfl
  exact ⟨accepted, keeps_iff_of_sanitize accepted⟩

/-- An item id that the schema lets through is not kept. -/
theorem not_forall_keeps :
    ¬∀ (p : Purpose) (fresh : Uuid) (raw c s : Options), p.schema.validate raw = .ok c →
      p.sanitize fresh raw = .ok s →
      ∀ key v, c.get? key = some v → v ≠ .string "" → Keeps p key v s := by
  intro kept
  have item := kept .speech ⟨15, by decide⟩ oversizedTarget oversizedTarget
    [("filename", .string "a.mp3"), ("itemid", Json.ofInt 0)] (by with_unfolding_all rfl)
    (by with_unfolding_all rfl) "itemid" oversized rfl nofun
  rw [Keeps, if_neg (by simp)] at item
  exact absurd (congrArg (Option.bind · Json.asInt64?) item) (by decide)

end PromptBroker.Purpose
