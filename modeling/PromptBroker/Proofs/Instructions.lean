import PromptBroker.Proofs.Request.Refusals
import PromptBroker.Proofs.Sanitize
import PromptBroker.Proofs.Text.Template

/-!
# What an agent's model is told

The instructions have four places. `filled_once` says what a model reads there: what the
user wrote, the form elements, the language, and a block for each page that brought some
text. Whatever these are, they stand between the same five texts, which are those around
the slots of the instructions; so nothing in them, and nothing that forms at their edges,
is filled in in turn.

Pages are fetched one after the other (`Visits`), and what each address is answered with
decides alone about its block (`Cites`). An address that brings nothing can as well be
left away.
-/

namespace PromptBroker

variable {o : Options} {w w' : World}

namespace Page

section

variable {answer : Except Http.CallError Http.Answer} {text : String} {charsets : Text.Charsets}

/-- An answer brings a text: it is a success, its body has arrived whole, and cleaning leaves
something of what it says. -/
inductive Brings (charsets : Text.Charsets) : Except Http.CallError Http.Answer → String → Prop
  | page {a : Http.Answer} {body : ByteArray} {html : String}
      (success : 200 ≤ a.status ∧ a.status < 300) (whole : a.body = some body)
      (reads : (a.encoding charsets).Reads body html) (left : clean html ≠ "") :
      Brings charsets (.ok a) (clean html)

theorem text?_eq_some : text? charsets answer = some text ↔ Brings charsets answer text := by
  have success_iff (code : UInt16) :
      Http.Status.isSuccess code = true ↔ 200 ≤ code ∧ code < 300 := by
    rw [Http.Status.isSuccess, Bool.and_eq_true, decide_eq_true_eq, decide_eq_true_eq]
  constructor
  · intro h
    unfold text? at h
    split at h
    · cases h
    · split at h
      · next success =>
        obtain ⟨cleaned, left⟩ := Option.filter_eq_some_iff.1 h
        obtain ⟨html, decoded, rfl⟩ := Option.map_eq_some_iff.1 cleaned
        obtain ⟨body, whole, decoded⟩ := Option.map_eq_some_iff.1 decoded
        exact .page ((success_iff _).1 success) whole (Text.Encoding.decode_eq_iff.1 decoded)
          (bne_iff_ne.1 left)
      · cases h
  · rintro ⟨success, whole, reads, left⟩
    rw [text?, if_pos ((success_iff _).2 success), Http.Answer.text?, whole, Option.map_some,
      reads.decode_eq]
    exact Option.filter_eq_some_iff.2 ⟨rfl, bne_iff_ne.2 left⟩

end

/-- An address, and what it is answered with. -/
abbrev Visit := String × Except Http.CallError Http.Answer

/-- Addresses are visited one after the other. -/
inductive Visits : World → List Visit → World → Prop
  | done {w : World} : Visits w [] w
  | next {w w₁ w' : World} {url : String} {answer : Except Http.CallError Http.Answer}
      {visits : List Visit} (called : Run.call .get url [] .empty w = .ok (answer, w₁))
      (rest : Visits w₁ visits w') : Visits w ((url, answer) :: visits) w'

/-- The blocks that visits leave: one for each that brings a text, in order. -/
inductive Cites (charsets : Text.Charsets) : List Visit → List String → Prop
  | nil : Cites charsets [] []
  | cited {url text : String} {answer : Except Http.CallError Http.Answer} {visits : List Visit}
      {blocks : List String} (brings : Brings charsets answer text)
      (rest : Cites charsets visits blocks) :
      Cites charsets ((url, answer) :: visits) (("Source: " ++ url ++ "\n" ++ text) :: blocks)
  | passed {url : String} {answer : Except Http.CallError Http.Answer} {visits : List Visit}
      {blocks : List String} (empty : ∀ text, ¬Brings charsets answer text)
      (rest : Cites charsets visits blocks) : Cites charsets ((url, answer) :: visits) blocks

variable {visits before after : List Visit} {answer : Except Http.CallError Http.Answer}
  {url : String} {blocks : List String} {charsets : Text.Charsets}

theorem exists_visits (urls : List String) (w : World) :
    ∃ visits w', visits.map Prod.fst = urls ∧ Visits w visits w' := by
  induction urls generalizing w with
  | nil => exact ⟨[], w, rfl, .done⟩
  | cons url rest ih =>
    obtain ⟨visits, w', rfl, rest⟩ := ih { w with peer := (Http.call .get url [] .empty w.peer).2 }
    exact ⟨_, w', rfl, .next (Run.call_eq_ok.2 ⟨rfl, rfl⟩) rest⟩

/-- The first of the addresses is visited first. -/
theorem Visits.first {rest : List String} (visited : Visits w visits w')
    (urls : visits.map Prod.fst = url :: rest) : ∃ w₁ others,
      Run.call .get url [] .empty w = .ok ((Http.call .get url [] .empty w.peer).1, w₁) ∧
      visits = (url, (Http.call .get url [] .empty w.peer).1) :: others ∧
      Visits w₁ others w' ∧ others.map Prod.fst = rest := by
  cases visited with
  | done => cases urls
  | next called others =>
    obtain ⟨rfl, behind⟩ := List.cons.inj urls
    obtain ⟨rfl, rfl⟩ := Run.call_eq_ok.1 called
    exact ⟨_, _, called, rfl, others, behind⟩

theorem exists_cites (charsets : Text.Charsets) (visits : List Visit) :
    ∃ blocks, Cites charsets visits blocks := by
  induction visits with
  | nil => exact ⟨[], .nil⟩
  | cons visit visits ih =>
    obtain ⟨blocks, ih⟩ := ih
    by_cases brings : ∃ text, Brings charsets visit.2 text
    · obtain ⟨text, brings⟩ := brings
      exact ⟨_, .cited brings ih⟩
    · exact ⟨_, .passed (not_exists.1 brings) ih⟩

/-- An address that brings nothing can be left away. -/
theorem Cites.without (cites : Cites charsets (before ++ (url, answer) :: after) blocks)
    (empty : ∀ text, ¬Brings charsets answer text) : Cites charsets (before ++ after) blocks := by
  induction before generalizing blocks with
  | nil =>
    cases cites with
    | cited brings => exact absurd brings (empty _)
    | passed _ rest => exact rest
  | cons visit before ih =>
    cases cites with
    | cited brings rest => exact .cited brings (ih rest)
    | passed empty rest => exact .passed empty (ih rest)

/-- What is fetched is what the visits leave. -/
theorem fetchAll_of_visits (visited : Visits w visits w') (cites : Cites w.charsets visits blocks) :
    ∃ pages, fetchAll (visits.map Prod.fst) w = .ok (pages, w') ∧
      Agent.documentation pages = "\n\n".intercalate blocks := by
  suffices ∃ pages, fetchAll (visits.map Prod.fst) w = .ok (pages, w') ∧
      pages.map (fun page => "Source: " ++ page.1 ++ "\n" ++ page.2) = blocks by
    obtain ⟨pages, fetched, rfl⟩ := this
    exact ⟨pages, fetched, rfl⟩
  induction visited generalizing blocks with
  | done =>
    cases cites
    exact ⟨[], rfl, rfl⟩
  | @next w w₁ w' url answer visits called _ ih =>
    have same := Run.charsets_of_call called
    cases cites with
    | @cited _ text _ _ _ brings rest =>
      obtain ⟨pages, fetched, rfl⟩ := ih (same ▸ rest)
      refine ⟨(url, text) :: pages, fetchAll_cons_eq_ok.2 ⟨_, _, pages, called, fetched, ?_⟩, rfl⟩
      rw [same, text?_eq_some.2 brings]
      rfl
    | passed empty rest =>
      obtain ⟨pages, fetched, rfl⟩ := ih (same ▸ rest)
      refine ⟨pages, fetchAll_cons_eq_ok.2 ⟨_, _, pages, called, fetched, ?_⟩, rfl⟩
      have none : text? w₁.charsets answer = none :=
        Option.eq_none_iff_forall_ne_some.2 fun text h =>
          empty text (text?_eq_some.1 (same ▸ h))
      rw [none]
      rfl

end Page

namespace Agent

variable {elements : Json} {language : String}

/-- The form elements that are shown: none, unless some are offered. -/
inductive Shows (o : Options) : Json → Prop
  | nothing (absent : o.get? "formelements" = none) : Shows o (.array [])
  | offered {elements : Json} (given : o.get? "formelements" = some elements) : Shows o elements

/-- The language to answer in: English, unless another is named. -/
inductive Speaks (o : Options) : String → Prop
  | unnamed (absent : o.get? "lang" = none) : Speaks o "en"
  | empty (given : o.get? "lang" = some (.string "")) : Speaks o "en"
  | named {language : String} (given : o.get? "lang" = some (.string language))
      (nonempty : language ≠ "") : Speaks o language

theorem exists_shows (o : Options) : ∃ elements, Shows o elements := by
  cases given : o.get? "formelements" with
  | none => exact ⟨_, .nothing given⟩
  | some elements => exact ⟨_, .offered given⟩

/-- In sanitized options a language is text. -/
theorem exists_speaks {fresh : Uuid} {raw : Options}
    (sanitized : Purpose.agent.sanitize fresh raw = .ok o) : ∃ language, Speaks o language := by
  cases given : o.get? "lang" with
  | none => exact ⟨_, .unnamed given⟩
  | some v =>
    obtain ⟨type, sent, -, declared, coerced⟩ :=
      exists_of_validate (Purpose.sanitize_agent sanitized) given
    cases declared.symm.trans (show Keyed.get? "lang" (Purpose.schema .agent) = some .text from rfl)
    obtain ⟨language, rfl⟩ : ∃ language, v = .string language := by
      unfold Schema.coerce? Schema.toText? at coerced
      cases sent <;> cases coerced <;> exact ⟨_, rfl⟩
    by_cases empty : language = ""
    · subst empty
      exact ⟨_, .empty given⟩
    · exact ⟨_, .named given empty⟩

/-! ### The text around the slots -/

theorem names_template : template.names =
    ["userprompt".toList, "formelements".toList, "lang".toList, "documentation".toList] := by
  show Text.Template.names (Text.Template.parseFrom 0 instructions.toList) = _
  unfold instructions
  -- A long text is taken apart faster here than by the kernel.
  simp only [String.toList_append, String.reduceToList]
  decide +kernel

/-- There are five texts around the four slots, and none of them has a further one. -/
theorem exists_gaps : ∃ s₀ s₁ s₂ s₃ s₄ : String,
    template.gaps = [s₀, s₁, s₂, s₃, s₄].map String.toList ∧
      ∀ s ∈ [s₀, s₁, s₂, s₃, s₄], ¬Text.HasSlot s.toList := by
  have five : (template.gaps.map String.ofList).length = 5 := by
    rw [List.length_map, Text.Template.length_gaps, names_template]
    rfl
  have texts : template.gaps = (template.gaps.map String.ofList).map String.toList := by
    rw [List.map_map]
    exact (List.map_id'' (fun _ => String.toList_ofList) _).symm
  generalize template.gaps.map String.ofList = l at five texts
  match l, five with
  | [s₀, s₁, s₂, s₃, s₄], _ =>
    refine ⟨s₀, s₁, s₂, s₃, s₄, texts, fun s mem => ?_⟩
    have among : s.toList ∈ template.gaps := by
      rw [texts]
      exact List.mem_map_of_mem mem
    exact Text.Template.not_hasSlot_of_mem_gaps among

theorem Shows.slotValue? (shows : Shows o elements) (user documentation : String) :
    slotValue? user o documentation "formelements" = some elements.render := by
  cases shows with
  | nothing absent => simp only [Agent.slotValue?, absent, Option.getD_none]
  | offered given => simp only [Agent.slotValue?, given, Option.getD_some]

theorem Speaks.slotValue? (speaks : Speaks o language) (user documentation : String) :
    slotValue? user o documentation "lang" = some language := by
  cases speaks with
  | unnamed absent =>
    have none : o.text? "lang" = none := by
      rw [Options.text?, absent]
      rfl
    simp only [Agent.slotValue?, none, Option.getD_none]
  | empty given =>
    have none : o.text? "lang" = none := by
      rw [Options.text?, given]
      rfl
    simp only [Agent.slotValue?, none, Option.getD_none]
  | named given nonempty =>
    simp only [Agent.slotValue?, Options.text?_eq_some.2 ⟨given, nonempty⟩, Option.getD_some]

/-- What is filled in stands between these texts as it is, and so do the slots themselves in the
instructions. -/
theorem exists_frame : ∃ s₀ s₁ s₂ s₃ s₄ : String,
    (∀ s ∈ [s₀, s₁, s₂, s₃, s₄], ¬Text.HasSlot s.toList) ∧
    instructions = s₀ ++ "\x7b\x7buserprompt\x7d\x7d" ++ s₁ ++ "\x7b\x7bformelements\x7d\x7d" ++
      s₂ ++ "\x7b\x7blang\x7d\x7d" ++ s₃ ++ "\x7b\x7bdocumentation\x7d\x7d" ++ s₄ ∧
    ∀ {o : Options} {elements : Json} {language : String}, Shows o elements → Speaks o language →
      ∀ user pages, prompt user o pages = s₀ ++ user ++ s₁ ++ elements.render ++ s₂ ++ language ++
        s₃ ++ documentation pages ++ s₄ := by
  obtain ⟨s₀, s₁, s₂, s₃, s₄, gaps, slotless⟩ := exists_gaps
  refine ⟨s₀, s₁, s₂, s₃, s₄, slotless, ?_, fun {o _ _} shows speaks user pages => ?_⟩
  · have woven := Text.Template.toList_eq_weave instructions
    rw [← template, gaps, names_template] at woven
    refine String.toList_injective (woven.trans ?_)
    simp [Text.Template.weave, Text.slotText]
  · have woven := template.toList_fill (slotValue? user o (documentation pages))
    rw [gaps, names_template] at woven
    have written : slotValue? user o (documentation pages) "userprompt" = some user := rfl
    have documented : slotValue? user o (documentation pages) "documentation" =
      some (documentation pages) := rfl
    refine String.toList_injective (woven.trans ?_)
    simp [Text.Template.weave, Text.Piece.fill, shows.slotValue?, speaks.slotValue?, written,
      documented]

/-! ### Prompts -/

open Page (Brings Visits Cites)

/-- What a model is told is the instructions with their four slots replaced, each once: by what the
user wrote, by the form elements, by the language, and by a block for each page that brings a text.
What stands around the slots has no further one, and what comes in their place is not looked at.
An address that brings nothing can be left away: as long as the others are answered as before, the
model is told the same. -/
theorem filled_once : ∃ s₀ s₁ s₂ s₃ s₄ : String,
    (∀ s ∈ [s₀, s₁, s₂, s₃, s₄], ¬Text.HasSlot s.toList) ∧
    instructions = s₀ ++ "\x7b\x7buserprompt\x7d\x7d" ++ s₁ ++ "\x7b\x7bformelements\x7d\x7d" ++
      s₂ ++ "\x7b\x7blang\x7d\x7d" ++ s₃ ++ "\x7b\x7bdocumentation\x7d\x7d" ++ s₄ ∧
    ∀ {fresh : Uuid} {raw o : Options}, Purpose.agent.sanitize fresh raw = .ok o →
      ∀ (user : String) (w : World), ∃ elements language visits blocks w',
        Shows o elements ∧ Speaks o language ∧
        Visits w visits w' ∧ visits.map Prod.fst = o.texts "documentationurls" ∧
        Cites w.charsets visits blocks ∧
        let told := s₀ ++ user ++ s₁ ++ elements.render ++ s₂ ++ language ++ s₃ ++
          "\n\n".intercalate blocks ++ s₄
        Purpose.agent.formatPrompt user o w = .ok (told, w') ∧
        ∀ before url answer after, visits = before ++ (url, answer) :: after →
          (∀ text, ¬Brings w.charsets answer text) →
          ∀ o' v v', Shows o' elements → Speaks o' language → v.charsets = w.charsets →
            Visits v (before ++ after) v' →
            o'.texts "documentationurls" = (before ++ after).map Prod.fst →
            Purpose.agent.formatPrompt user o' v = .ok (told, v') := by
  obtain ⟨s₀, s₁, s₂, s₃, s₄, slotless, written, filled⟩ := exists_frame
  refine ⟨s₀, s₁, s₂, s₃, s₄, slotless, written, fun {fresh raw o} sanitized user w => ?_⟩
  obtain ⟨elements, shows⟩ := exists_shows o
  obtain ⟨language, speaks⟩ := exists_speaks sanitized
  obtain ⟨visits, w', urls, visited⟩ := Page.exists_visits (o.texts "documentationurls") w
  obtain ⟨blocks, cites⟩ := Page.exists_cites w.charsets visits
  have told {o' v v' visits'} (shows : Shows o' elements) (speaks : Speaks o' language)
      (visited : Visits v visits' v') (cites : Cites v.charsets visits' blocks)
      (urls : o'.texts "documentationurls" = visits'.map Prod.fst) :
      Purpose.agent.formatPrompt user o' v = .ok (s₀ ++ user ++ s₁ ++ elements.render ++ s₂ ++
        language ++ s₃ ++ "\n\n".intercalate blocks ++ s₄, v') := by
    obtain ⟨pages, fetched, cited⟩ := Page.fetchAll_of_visits visited cites
    refine Broker.formatPrompt_agent_eq_ok.2 ⟨pages, urls ▸ fetched, ?_⟩
    rw [filled shows speaks, cited]
  refine ⟨elements, language, visits, blocks, w', shows, speaks, visited, urls, cites,
    told shows speaks visited cites urls.symm, ?_⟩
  rintro before url answer after rfl empty o' v v' shows' speaks' same visited' urls'
  exact told shows' speaks' visited' (same ▸ cites.without empty) urls'

namespace Sample

/-- Options that name pages, and a language without a name. -/
def sources (urls : List String) : Options :=
  [("documentationurls", .array (urls.map .string)), ("lang", .string "")]

/-- There is a page with a byte order mark and a text that looks like a slot. -/
def guided : World := Broker.Sample.world ["\uFEFF<p>Mind \x7b\x7blang\x7d\x7d.</p>"]

theorem brings_guide : Brings guided.charsets
    (Http.call .get "http://[::1]/guide" [] .empty guided.peer).1 "Mind \x7b\x7blang\x7d\x7d." :=
  Page.text?_eq_some.1 (by decide +kernel)

end Sample

/-- What looks like a slot stays what it is, in what the user wrote and in a page; a language
without a name is English; and an address that cannot be called leaves nothing, so that it can as
well be left away. -/
theorem filled_once_verbatim : ∃ s₀ s₁ s₂ s₃ s₄ told w' w'',
    told = s₀ ++ "Say \x7b\x7blang\x7d\x7d." ++ s₁ ++ "[]" ++ s₂ ++ "en" ++ s₃ ++
      "Source: http://[::1]/guide\nMind \x7b\x7blang\x7d\x7d." ++ s₄ ∧
    Purpose.agent.formatPrompt "Say \x7b\x7blang\x7d\x7d."
      (Sample.sources ["http://[::1]/guide", "nowhere"]) Sample.guided = .ok (told, w') ∧
    Purpose.agent.formatPrompt "Say \x7b\x7blang\x7d\x7d."
      (Sample.sources ["http://[::1]/guide"]) Sample.guided = .ok (told, w'') := by
  obtain ⟨s₀, s₁, s₂, s₃, s₄, -, -, filled⟩ := filled_once
  have sanitized : Purpose.agent.sanitize Uuid.oidNamespace
      (Sample.sources ["http://[::1]/guide", "nowhere"]) =
      .ok (Sample.sources ["http://[::1]/guide", "nowhere"]) := by
    with_unfolding_all rfl
  obtain ⟨elements, language, visits, blocks, w', shows, speaks, visited, urls, cites, told,
    without⟩ := filled sanitized "Say \x7b\x7blang\x7d\x7d." Sample.guided
  obtain rfl : elements = .array [] := by
    cases shows with
    | nothing => rfl
    | offered given => cases given
  obtain rfl : language = "en" := by
    cases speaks with
    | named given nonempty =>
      cases given
      exact absurd rfl nonempty
    | _ => rfl
  have texts : (Sample.sources ["http://[::1]/guide", "nowhere"]).texts "documentationurls" =
      ["http://[::1]/guide", "nowhere"] := rfl
  rw [texts] at urls
  obtain ⟨w₁, others, called, rfl, visited, urls⟩ := visited.first urls
  obtain ⟨w₂, others, called', rfl, -, urls⟩ := visited.first urls
  obtain rfl := List.map_eq_nil_iff.1 urls
  obtain ⟨e, failed⟩ := Http.call_of_not_callable (show Http.isCallable "nowhere" = false by
    decide +kernel) .get [] .empty w₁.peer
  rw [failed] at cites without
  have silent (text : String) : ¬Brings Sample.guided.charsets (.error e) text := by rintro ⟨⟩
  obtain rfl : blocks = ["Source: http://[::1]/guide\nMind \x7b\x7blang\x7d\x7d."] := by
    cases cites with
    | cited brings rest =>
      cases rest with
      | cited brings => exact absurd brings (silent _)
      | passed _ rest =>
        cases rest
        cases (Page.text?_eq_some.2 brings).symm.trans (Page.text?_eq_some.2 Sample.brings_guide)
        rfl
    | passed empty => exact absurd Sample.brings_guide (empty _)
  refine ⟨s₀, s₁, s₂, s₃, s₄, _, w', w₁, rfl, told, ?_⟩
  exact without [_] _ _ [] rfl silent _ _ _ (.nothing rfl) (.empty rfl) rfl (.next called .done) rfl

end Agent

end PromptBroker
