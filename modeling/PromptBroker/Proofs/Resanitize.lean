import PromptBroker.Proofs.Agent
import PromptBroker.Proofs.Sanitize
import PromptBroker.Proofs.Settled

/-!
# Sanitizing again

A request may be sanitized more than once on its way, so that sanitized options have to
be left as they are. The schema lets settled options through unchanged. What a purpose
fills in besides is of the declared type, so that options stay settled, and it is there
the next time, so that nothing more is filled in: the file name that was drawn first is
kept, whatever fresh name is at hand by then.
-/

namespace PromptBroker.Purpose

open Schema (Settled IsOf settled_of_validate)

variable {α : Type} {p : Purpose} {fresh fresh' : Uuid} {raw o o' : Options}
  {key other stem extension : String} {value : Json}

/-! ### Filling gaps -/

/-- The options, with a value put in if there is a gap. -/
def fillGap (gap : Bool) (key : String) (value : Json) (o : Options) : Options :=
  if gap then o.insert key value else o

/-- A gap is a key that nothing can be read from; it is filled by what can be read. -/
theorem isSome_fillGap (read : Options → Option α) (reads : (read (o.insert key value)).isSome) :
    (read (fillGap (read o).isNone key value o)).isSome := by
  unfold fillGap
  split
  · exact reads
  · next present => simpa [Option.isSome_iff_ne_none] using present

theorem fillGap_of_isSome (read : Options → Option α) (present : (read o).isSome) :
    fillGap (read o).isNone key value o = o := by
  rw [fillGap, Option.isNone_eq_false_iff.2 present, if_neg Bool.false_ne_true]

@[simp] theorem get?_fillGap_of_ne (h : other ≠ key) (gap : Bool) :
    (fillGap gap key value o).get? other = o.get? other := by
  unfold fillGap
  split
  · simp [h]
  · rfl

theorem settled_fillGap {s : Schema} {type : ParamType} (h : Settled s o)
    (declared : Keyed.get? key s = some type) (typed : IsOf type value) (gap : Bool) :
    Settled s (fillGap gap key value o) := by
  unfold fillGap
  split
  · exact h.insert declared typed
  · exact h

/-! ### Where an output is stored -/

/-- Two digits for each byte, and none of them opens a tag. -/
theorem opens_not_mem_hexBytes (bytes : List UInt8) : '<' ∉ Text.hexBytes bytes := by
  have digit : ∀ n : Fin 16, Text.hexDigit n ≠ '<' := by decide
  intro h
  obtain ⟨b, -, h⟩ := List.mem_flatMap.1 h
  have two : Text.hexDigits 2 b.toNat =
      [Text.hexDigit (b.toNat / 16 % 16), Text.hexDigit (b.toNat % 16)] := rfl
  rw [two, List.mem_cons, List.mem_singleton] at h
  rcases h with h | h
  · exact digit ⟨_, Nat.mod_lt _ (by decide)⟩ h.symm
  · exact digit ⟨_, Nat.mod_lt _ (by decide)⟩ h.symm

theorem isOf_freshFilename (fresh : Uuid) (stem_plain : '<' ∉ stem.toList)
    (extension_plain : '<' ∉ extension.toList) :
    IsOf .text (.string (freshFilename stem extension fresh)) := by
  refine .text fun tag => ?_
  have opens := tag.opens
  unfold freshFilename Uuid.simple at opens
  simp only [String.toList_append, String.toList_ofList, List.mem_append] at opens
  rcases opens with (((opens | opens) | opens) | opens) | opens
  · exact stem_plain opens
  · exact absurd opens (by decide)
  · exact opens_not_mem_hexBytes _ opens
  · exact absurd opens (by decide)
  · exact extension_plain opens

theorem freshFilename_ne_empty (stem extension : String) (fresh : Uuid) :
    freshFilename stem extension fresh ≠ "" := fun empty => by
  have := congrArg String.toList empty
  simp [freshFilename] at this

/-- The options with the item that an output belongs to. -/
def withItem (o : Options) : Options :=
  fillGap (o.int? "itemid").isNone "itemid" (Json.ofInt 0) o

theorem withFileTarget_eq : withFileTarget stem extension fresh o =
    fillGap ((withItem o).text? "filename").isNone "filename"
      (.string (freshFilename stem extension fresh)) (withItem o) := rfl

theorem isSome_itemid_withItem : ((withItem o).int? "itemid").isSome := by
  refine isSome_fillGap (Options.int? "itemid") ?_
  rw [Options.int?, Options.get?_insert_self]
  rfl

theorem isSome_itemid_withFileTarget :
    ((withFileTarget stem extension fresh o).int? "itemid").isSome := by
  simpa [withFileTarget_eq, Options.int?] using @isSome_itemid_withItem o

theorem isSome_filename_withFileTarget :
    ((withFileTarget stem extension fresh o).text? "filename").isSome := by
  refine isSome_fillGap (Options.text? "filename") ?_
  rw [Options.text?, Options.get?_insert_self]
  simp [Json.asString?, freshFilename_ne_empty]

/-- A file target that is there stays as it is. -/
theorem withFileTarget_withFileTarget :
    withFileTarget stem extension fresh' (withFileTarget stem extension fresh o) =
      withFileTarget stem extension fresh o := by
  have same : withItem (withFileTarget stem extension fresh o) =
      withFileTarget stem extension fresh o :=
    fillGap_of_isSome (Options.int? "itemid") isSome_itemid_withFileTarget
  rw [withFileTarget_eq, same]
  exact fillGap_of_isSome (Options.text? "filename") isSome_filename_withFileTarget

theorem settled_withFileTarget {s : Schema} (h : Settled s o)
    (item : Keyed.get? "itemid" s = some .int) (name : Keyed.get? "filename" s = some .text)
    (stem_plain : '<' ∉ stem.toList) (extension_plain : '<' ∉ extension.toList) :
    Settled s (withFileTarget stem extension fresh o) :=
  settled_fillGap (settled_fillGap h item (Schema.isOf_ofInt (by decide) (by decide)) _) name
    (isOf_freshFilename fresh stem_plain extension_plain) _

/-! ### Transcripts -/

/-- The transcript format that the options name, or else plain text. -/
def withFormat (o : Options) : Options :=
  fillGap (o.text? "response_format").isNone "response_format" (.string "text") o

/-- The options with a temperature. -/
def withTemperature (o : Options) : Options :=
  fillGap (o.float? "temperature").isNone "temperature" (Json.ofFloat 0) o

theorem completeTranscription_eq_ok : completeTranscription o = .ok o' ↔
    (∃ format ∈ transcriptFormats, (withFormat o).text? "response_format" = some format) ∧
      withTemperature (withFormat o) = o' := by
  have last (o₁ : Options) : (if (o₁.float? "temperature").isNone then
      (pure (o₁.insert "temperature" (Json.ofFloat 0)) : Outcome Options) else pure o₁) =
        .ok (withTemperature o₁) := by
    unfold withTemperature fillGap
    split <;> rfl
  unfold completeTranscription withFormat
  cases named : o.text? "response_format" with
  | none =>
    have filled : (o.insert "response_format" (.string "text")).text? "response_format" =
        some "text" := by
      rw [Options.text?, Options.get?_insert_self]
      rfl
    have known : ∃ format ∈ transcriptFormats, some "text" = some format :=
      ⟨"text", by decide, rfl⟩
    simp only [pure, Except.pure, bind, Except.bind] at last ⊢
    rw [last, Option.isNone_none, fillGap, if_pos rfl, filled]
    simp only [Except.ok.injEq, known, true_and]
  | some format =>
    simp only [pure, Except.pure, bind, Except.bind] at last ⊢
    rw [Option.isNone_some, fillGap, if_neg Bool.false_ne_true, named]
    split
    · next known =>
      have known : ∃ f ∈ transcriptFormats, some format = some f :=
        ⟨format, List.contains_iff_mem.1 known, rfl⟩
      rw [last]
      simp only [Except.ok.injEq, known, true_and]
    · next unknown =>
      refine iff_of_false (by rintro ⟨⟩) ?_
      rintro ⟨⟨f, known, same⟩, -⟩
      cases same
      exact unknown (List.contains_iff_mem.2 known)

theorem isSome_temperature_withTemperature :
    ((withTemperature o).float? "temperature").isSome := by
  refine isSome_fillGap (Options.float? "temperature") ?_
  rw [Options.float?, Options.get?_insert_self]
  decide +kernel

theorem completeTranscription_again (h : completeTranscription o = .ok o') :
    completeTranscription o' = .ok o' := by
  obtain ⟨⟨format, known, named⟩, rfl⟩ := completeTranscription_eq_ok.1 h
  have named : (withTemperature (withFormat o)).text? "response_format" = some format := by
    simpa [withTemperature, Options.text?] using named
  have format_stays :
      withFormat (withTemperature (withFormat o)) = withTemperature (withFormat o) :=
    fillGap_of_isSome (Options.text? "response_format") (by rw [named]; rfl)
  refine completeTranscription_eq_ok.2 ⟨⟨format, known, ?_⟩, ?_⟩
  · rwa [format_stays]
  · rw [format_stays]
    exact fillGap_of_isSome (Options.float? "temperature") isSome_temperature_withTemperature

/-- The temperature that is put in is in range. -/
theorem checkTemperature_completeTranscription (inRange : checkTemperature o = .ok ())
    (h : completeTranscription o = .ok o') : checkTemperature o' = .ok () := by
  obtain ⟨-, rfl⟩ := completeTranscription_eq_ok.1 h
  have unchanged : checkTemperature (withFormat o) = .ok () := by
    rwa [checkTemperature, Options.float?, withFormat, get?_fillGap_of_ne (by decide)]
  unfold withTemperature fillGap
  split
  · have zero :
        ((withFormat o).insert "temperature" (Json.ofFloat 0)).float? "temperature" = some 0 := by
      rw [Options.float?, Options.get?_insert_self, Json.ofFloat, dif_pos (by decide +kernel)]
      rfl
    rw [checkTemperature, zero]
    exact if_pos (by decide +kernel)
  · exact unchanged

theorem settled_completeTranscription (settled : Settled (schema .transcription) o)
    (h : completeTranscription o = .ok o') : Settled (schema .transcription) o' := by
  obtain ⟨-, rfl⟩ := completeTranscription_eq_ok.1 h
  have format : IsOf .text (.string "text") := .text (Text.not_hasTag_of_not_mem (by decide))
  have temperature : IsOf .float (Json.ofFloat 0) := .float 0 (by decide +kernel)
  exact settled_fillGap (settled_fillGap settled rfl format _) rfl temperature _

/-! ### Retrieval -/

/-- The options with a number of hits. -/
def withHits (o : Options) : Options :=
  fillGap (o.int? "topk").isNone "topk" (Json.ofInt 1) o

/-- What a completed retrieval has. -/
structure RetrievalReady (o : Options) (action : RetrievalAction) : Prop where
  named : o.get? "action" = some (.string action.name)
  stays : o.insert "action" (.string action.name) = o
  hits : ∃ k, o.int? "topk" = some k ∧ ¬k < 1
  id : action = .store → hasStoreId o = true

theorem RetrievalReady.complete {action : RetrievalAction} (h : RetrievalReady o action) :
    completeRetrieval o = .ok o := by
  obtain ⟨k, hk, enough⟩ := h.hits
  have accepted : (action = .store && !hasStoreId o) = false := by
    cases action with
    | store => rw [h.id rfl]; rfl
    | retrieve => rfl
  unfold completeRetrieval
  rw [ofOptions_of_action h.named]
  simp only [bind, Except.bind, pure, Except.pure, h.stays, hk, if_neg enough, accepted,
    Bool.false_eq_true, if_false]

theorem ready_withHits {action : RetrievalAction}
    (enough : ∀ k, (o.insert "action" (.string action.name)).int? "topk" = some k → ¬k < 1)
    (id : action = .store →
      hasStoreId (withHits (o.insert "action" (.string action.name))) = true) :
    RetrievalReady (withHits (o.insert "action" (.string action.name))) action where
  named := by simp [withHits]
  stays := by
    unfold withHits fillGap
    split
    · exact Keyed.insert_insert_of_isBefore (Keyed.insert_insert ..) (by decide) _
    · simp [Options.insert]
  hits := by
    unfold withHits
    cases topk : (o.insert "action" (.string action.name)).int? "topk" with
    | none =>
      refine ⟨1, ?_, by decide⟩
      rw [Option.isNone_none, fillGap, if_pos rfl, Options.int?, Options.get?_insert_self]
      rfl
    | some k => exact ⟨k, topk, enough k topk⟩
  id := id

/-- What comes out for the action that the options name. -/
theorem completeRetrieval_ready_of {action : RetrievalAction}
    (named : RetrievalAction.ofOptions o = .ok action) (h : completeRetrieval o = .ok o') :
    o' = withHits (o.insert "action" (.string action.name)) ∧ RetrievalReady o' action := by
  unfold completeRetrieval at h
  rw [named] at h
  have checked {o₁ : Options} (h : (if action = .store && !hasStoreId o₁ then
      (.error (.invalidParameter "metadata" "storing content requires metadata.id") :
        Outcome Options) else pure o₁) = .ok o') :
      o' = o₁ ∧ (action = .store → hasStoreId o₁ = true) := by
    split at h
    · cases h
    · next accepted =>
      cases h
      refine ⟨rfl, fun store => ?_⟩
      simpa [store] using accepted
  have ready := @ready_withHits o action
  dsimp only [bind, Except.bind] at h
  unfold withHits at ready ⊢
  cases topk : (o.insert "action" (.string action.name)).int? "topk" with
  | none =>
    rw [topk] at h ready
    obtain ⟨rfl, id⟩ := checked h
    exact ⟨rfl, ready (fun k absent => nomatch absent) id⟩
  | some k =>
    rw [topk] at h ready
    dsimp only at h
    split at h
    · cases h
    next enough =>
    obtain ⟨rfl, id⟩ := checked h
    exact ⟨rfl, ready (fun _ same => Option.some.inj same ▸ enough) id⟩

theorem completeRetrieval_ready (h : completeRetrieval o = .ok o') :
    ∃ action : RetrievalAction, o' = withHits (o.insert "action" (.string action.name)) ∧
      RetrievalReady o' action := by
  cases named : RetrievalAction.ofOptions o with
  | error f =>
    rw [completeRetrieval, named] at h
    cases h
  | ok action => exact ⟨action, completeRetrieval_ready_of named h⟩

theorem completeRetrieval_again (h : completeRetrieval o = .ok o') :
    completeRetrieval o' = .ok o' := by
  obtain ⟨action, -, ready⟩ := completeRetrieval_ready h
  exact ready.complete

theorem settled_completeRetrieval (settled : Settled (schema .retrieval) o)
    (h : completeRetrieval o = .ok o') : Settled (schema .retrieval) o' := by
  obtain ⟨action, rfl, -⟩ := completeRetrieval_ready h
  have plain : IsOf .text (.string action.name) :=
    .text (Text.not_hasTag_of_not_mem (by cases action <;> decide))
  have declared : Keyed.get? "action" (schema .retrieval) = some .text := rfl
  exact settled_fillGap (settled.insert declared plain) rfl
    (Schema.isOf_ofInt (by decide) (by decide)) _

/-! ### Every purpose -/

theorem completeImageDescription_eq_ok (h : completeImageDescription o = .ok o') : o = o' := by
  unfold completeImageDescription at h
  split at h
  · cases h
  · split at h
    · exact Except.ok.inj h
    · cases h

/-- What a purpose fills in is of the declared type. -/
theorem settled_complete (settled : Settled p.schema o) (h : p.complete fresh o = .ok o') :
    Settled p.schema o' := by
  cases p with
  | transcription => exact settled_completeTranscription settled h
  | retrieval => exact settled_completeRetrieval settled h
  | speech | imageGeneration =>
    cases h
    exact settled_withFileTarget settled rfl rfl (by decide) (by decide)
  | imageDescription =>
    cases completeImageDescription_eq_ok h
    exact settled
  | _ =>
    cases h
    exact settled

/-- What has been filled in is not filled in again. -/
theorem complete_complete (fresh' : Uuid) (h : p.complete fresh o = .ok o') :
    p.complete fresh' o' = .ok o' := by
  cases p with
  | transcription => exact completeTranscription_again h
  | retrieval => exact completeRetrieval_again h
  | speech | imageGeneration =>
    cases h
    exact congrArg Except.ok withFileTarget_withFileTarget
  | imageDescription =>
    cases completeImageDescription_eq_ok h
    exact h
  | _ =>
    cases h
    rfl

/-- A temperature that has been checked is in range after completion as well. -/
theorem checkTemperature_complete (declared : p.schema.contains "temperature" = true)
    (inRange : checkTemperature o = .ok ()) (h : p.complete fresh o = .ok o') :
    checkTemperature o' = .ok () := by
  cases p with
  | transcription => exact checkTemperature_completeTranscription inRange h
  | chat | singlePrompt | feedback | translate | questionGeneration =>
    cases h
    exact inRange
  | _ => cases declared

/-- The three stages of sanitizing, all of them passed. -/
theorem sanitize_eq_ok : p.sanitize fresh raw = .ok o ↔
    ∃ o₁, p.schema.validate raw = .ok o₁ ∧
      (p.schema.contains "temperature" = true → checkTemperature o₁ = .ok ()) ∧
      p.complete fresh o₁ = .ok o := by
  unfold sanitize
  cases p.schema.validate raw with
  | error f => exact iff_of_false (fun h => nomatch h) fun ⟨_, h, _⟩ => nomatch h
  | ok o₁ =>
    simp only [bind, Except.bind, Except.ok.injEq, exists_eq_left']
    cases p.schema.contains "temperature" with
    | false => simp
    | true => cases checkTemperature o₁ <;> simp

/-- What was filled in, drawn or brought to a type the first time is left as it is the second time.
An agent keeps the same ids, whichever strategies the two passes are made with. -/
theorem sanitize_sanitize (accepted : p.sanitize fresh raw = .ok o) (fresh' : Uuid) :
    p.sanitize fresh' o = .ok o ∧
      (p = .agent → ∀ s s' : Agent.Strategy,
        s'.sanitize fresh' o = (.ok o, (s.sanitize fresh raw).2)) := by
  obtain ⟨o₁, valid, inRange, completed⟩ := sanitize_eq_ok.1 accepted
  have settled : Settled p.schema o := settled_complete (settled_of_validate valid) completed
  have again : p.sanitize fresh' o = .ok o := sanitize_eq_ok.2 ⟨o, settled.validate,
    fun declared => checkTemperature_complete declared (inRange declared) completed,
    complete_complete fresh' completed⟩
  refine ⟨again, ?_⟩
  rintro rfl s s'
  rw [Agent.Strategy.sanitize, again, Agent.Strategy.sanitize, accepted]

/-- Options for a spoken text: a file name that is nothing but a tag, and an item as text. -/
def rawTarget : Options := [("filename", .string "<hr>"), ("itemid", .string " 7 ")]

/-- The same options sanitized, with the file name that was drawn. -/
def target : Options :=
  [("filename", .string "tts_0000000000000000000000000000000f.mp3"), ("itemid", Json.ofInt 7)]

/-- The elements of a form, one of them with a number as its id. -/
def formElements : Json :=
  .array [Json.ofMembers [("id", .string "<b>")], Json.ofMembers [("id", Json.ofInt 7)]]

theorem sanitize_sanitize_speech_form :
    (sanitize .speech ⟨15, by decide⟩ rawTarget = .ok target ∧
      sanitize .speech ⟨16, by decide⟩ target = .ok target) ∧
    (Agent.Strategy.sanitize ⟨["other"]⟩ ⟨16, by decide⟩
        [("formelements", formElements), ("lang", .string "de")] =
      (.ok [("formelements", formElements), ("lang", .string "de")],
        (Agent.Strategy.sanitize ⟨[]⟩ ⟨15, by decide⟩
          [("formelements", formElements), ("lang", .string "<i>de")]).2)) := by
  have spoken : sanitize .speech ⟨15, by decide⟩ rawTarget = .ok target := by
    with_unfolding_all rfl
  have filled : sanitize .agent ⟨15, by decide⟩
      [("formelements", formElements), ("lang", .string "<i>de")] =
        .ok [("formelements", formElements), ("lang", .string "de")] := by
    with_unfolding_all rfl
  exact ⟨⟨spoken, (sanitize_sanitize spoken _).1⟩, (sanitize_sanitize filled _).2 rfl _ _⟩

end PromptBroker.Purpose
