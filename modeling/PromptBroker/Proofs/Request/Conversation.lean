import PromptBroker.Proofs.Request.Posted
import PromptBroker.Proofs.VectorStore.RoundTrip

/-!
# The conversation so far

A chat and an agent may be given the conversation so far, as a list of entries or as a keyed
structure of them. Each entry is to be told to the provider, in front of the prompt, and if
one cannot be told the request is to be refused before the provider is called (`Conveys`).
A list of entries gets through like this, as long as each of them has a text for its message;
one that has none goes out with an empty message. A keyed structure is accepted but not looked
into, so that its entries are lost, whoever is said to have sent them. Nothing else is lost
(`conveys_iff`).
-/

namespace PromptBroker

namespace Chat

variable {o : Options} {i : Instance} {text parameter : String} {entry context m : Json}
  {items ms : List Json} {members : List (String × Json)} {p : Http.Payload}

/-! ### Entries -/

/-- The senders, each with the role under which the provider knows it. -/
def roles : List (String × String) := [("user", "user"), ("ai", "assistant"), ("system", "system")]

/-- The entries of a conversation, in their order. -/
def entries : Json → List Json
  | .array items => items
  | .object members => members.map Prod.snd
  | _ => []

/-- The sender of an entry is known to the provider under this role. -/
inductive SentAs (entry : Json) : String → Prop
  | intro {sender role} (known : (sender, role) ∈ roles)
      (sent : entry.get? "sender" = some (.string sender)) : SentAs entry role

/-- The message of an entry is no text. -/
def Wordless (entry : Json) : Prop := ∀ words, entry.get? "message" ≠ some (.string words)

/-- The message tells the provider what the entry says, and who has said it. -/
inductive Tells (entry : Json) : Json → Prop
  | intro {role words} (sent : SentAs entry role)
      (said : entry.get? "message" = some (.string words)) : Tells entry (message role words)

/-- The message tells the provider who has said something, but nothing of it. -/
inductive Blanks (entry : Json) : Json → Prop
  | intro {role} (sent : SentAs entry role) (wordless : Wordless entry) :
      Blanks entry (message role "")

/-- What goes out for an entry: a message that tells it, or an empty one. -/
def Passes (entry m : Json) : Prop := Tells entry m ∨ Blanks entry m

/-- Something of the conversation is lost: it is a keyed structure with an entry, or a list with an
entry whose message is no text, and no sender in it is unknown. -/
inductive Loses : Json → Prop
  | keyed {members : List (String × Json)} (filled : members ≠ []) : Loses (.object members)
  | wordless {items : List Json} {entry : Json} (sent : ∀ e ∈ items, ∃ role, SentAs e role)
      (mem : entry ∈ items) (wordless : Wordless entry) : Loses (.array items)

theorem role?_eq_some {sender role : String} :
    role? sender = some role ↔ (sender, role) ∈ roles := by
  unfold role?
  split <;> simp_all [roles, eq_comm]

theorem sentAs_iff {role : String} :
    SentAs entry role ↔ ((entry.get? "sender").bind Json.asString?).bind role? = some role := by
  rw [Option.bind_eq_some_iff]
  simp only [Json.bind_asString?_eq_some, role?_eq_some]
  constructor
  · rintro ⟨known, sent⟩
    exact ⟨_, sent, known⟩
  · rintro ⟨sender, sent, known⟩
    exact .intro known sent

theorem earlierMessage_eq_ok : earlierMessage entry = .ok m ↔ Passes entry m := by
  unfold earlierMessage
  dsimp only
  constructor
  · intro told
    split at told
    next role known =>
      cases told
      have sent := sentAs_iff.2 known
      cases said : (entry.get? "message").bind Json.asString? with
      | some words => exact .inl (.intro sent (Json.bind_asString?_eq_some.1 said))
      | none =>
        refine .inr (.intro sent fun words given => ?_)
        cases said.symm.trans (Json.bind_asString?_eq_some.2 given)
    · cases told
  · rintro (⟨sent, said⟩ | ⟨sent, wordless⟩)
    · rw [sentAs_iff.1 sent, Json.bind_asString?_eq_some.2 said]
      rfl
    · have silent : (entry.get? "message").bind Json.asString? = none :=
        Option.eq_none_iff_forall_ne_some.2 fun words given =>
          wordless words (Json.bind_asString?_eq_some.1 given)
      rw [sentAs_iff.1 sent, silent]
      rfl

/-- Something goes out for an entry whose sender is known. -/
theorem SentAs.exists_passes {role : String} (sent : SentAs entry role) : ∃ m, Passes entry m := by
  by_cases wordless : Wordless entry
  · exact ⟨_, .inr (.intro sent wordless)⟩
  · obtain ⟨words, said⟩ := not_forall_not.1 wordless
    exact ⟨_, .inl (.intro sent said)⟩

theorem exists_of_earlierMessage_eq_error {f : Failure} (failed : earlierMessage entry = .error f) :
    ∃ details, f = .invalidParameter "conversationcontext" details := by
  unfold earlierMessage at failed
  dsimp only at failed
  split at failed
  · cases failed
  · cases failed
    exact ⟨_, rfl⟩

theorem sent_of_passes (each : List.Forall₂ Passes items ms) :
    ∀ entry ∈ items, ∃ role, SentAs entry role := by
  refine ((List.forall₂_and_left _ _).1 (each.imp fun entry m tells => ⟨?_, tells⟩)).1
  rcases tells with ⟨sent, -⟩ | ⟨sent, -⟩ <;> exact ⟨_, sent⟩

theorem worded_of_tells (each : List.Forall₂ Tells items ms) :
    ∀ entry ∈ items, ¬Wordless entry := by
  refine ((List.forall₂_and_left _ _).1 (each.imp fun entry m tells => ⟨?_, tells⟩)).1
  obtain ⟨-, said⟩ := tells
  exact fun wordless => wordless _ said

/-! ### Messages -/

/-- These are the messages in the body of the payload. -/
def Sends (p : Http.Payload) (ms : List Json) : Prop :=
  ∃ v, p.body = .json v ∧ v.get? "messages" = some (.array ms)

theorem Sends.unique {ms' : List Json} (sends : Sends p ms) (sends' : Sends p ms') : ms = ms' := by
  obtain ⟨v, body, found⟩ := sends
  obtain ⟨v', body', found'⟩ := sends'
  cases body.symm.trans body'
  cases found.symm.trans found'
  rfl

theorem exists_payload_of_messages (written : messages text o = .ok ms) (i : Instance) :
    ∃ p, payload i text o = .ok p ∧ Sends p ms := by
  unfold payload
  rw [written]
  refine ⟨_, rfl, _, rfl, ?_⟩
  simp +decide [Json.get?, Json.ofMembers, Keyed.ofList, Keyed.insert]

theorem payload_of_messages_error {f : Failure} (failed : messages text o = .error f)
    (i : Instance) : payload i text o = .error f := by
  unfold payload
  rw [failed]
  rfl

/-- A list of entries goes out entry by entry, in front of the prompt, or there is no payload on
account of a sender that is not known. -/
theorem payload_of_list (listed : o.get? "conversationcontext" = some (.array items))
    (i : Instance) (text : String) :
    (∃ told p, List.Forall₂ Passes items told ∧
      payload i text o = .ok p ∧ Sends p (told ++ [message "user" text])) ∨
    ∃ entry ∈ items, (∀ role, ¬SentAs entry role) ∧ ∃ details,
      payload i text o = .error (.invalidParameter "conversationcontext" details) := by
  have looked : o.items? "conversationcontext" = some items := by
    rw [Options.items?, listed]
    rfl
  cases mapped : items.mapM earlierMessage with
  | ok told =>
    have written : messages text o = .ok (told ++ [message "user" text]) := by
      rw [messages, looked]
      dsimp only
      rw [mapped]
      rfl
    obtain ⟨p, made, sends⟩ := exists_payload_of_messages written i
    have each := (Outcome.mapM_eq_ok.1 mapped).imp fun _ _ => earlierMessage_eq_ok.1
    exact .inl ⟨told, p, each, made, sends⟩
  | error f =>
    have failed : messages text o = .error f := by
      rw [messages, looked]
      dsimp only
      rw [mapped]
      rfl
    obtain ⟨entry, mem, untold⟩ := Outcome.exists_of_mapM_eq_error mapped
    obtain ⟨details, rfl⟩ := exists_of_earlierMessage_eq_error untold
    refine .inr ⟨entry, mem, fun role sent => ?_, details, payload_of_messages_error failed i⟩
    obtain ⟨m, passes⟩ := sent.exists_passes
    cases untold.symm.trans (earlierMessage_eq_ok.2 passes)

/-- A keyed structure is not looked into: there is nothing but the prompt. -/
theorem payload_of_keyed (keyed : o.get? "conversationcontext" = some (.object members))
    (noImage : o.get? "image" = none) (i : Instance) (text : String) :
    ∃ p, payload i text o = .ok p ∧ Sends p [message "user" text] := by
  have overlooked : o.items? "conversationcontext" = none := by
    rw [Options.items?, keyed]
    rfl
  have written : messages text o = .ok [message "user" text] := by
    rw [messages, overlooked]
    dsimp only
    rw [noImage]
  exact exists_payload_of_messages written i

end Chat

/-! ### Purposes with a conversation -/

/-- The purposes that are given a conversation. -/
def Purpose.Converses (p : Purpose) : Prop := p = .chat ∨ p = .agent

namespace Purpose.Converses

variable {p : Purpose} {fresh : Uuid} {raw o : Options} {context : Json}

theorem validate_of_sanitize (converses : p.Converses) (sanitized : p.sanitize fresh raw = .ok o) :
    p.schema.validate raw = .ok o := by
  obtain ⟨o₁, valid, -, completed⟩ := sanitize_eq_ok.1 sanitized
  rcases converses with rfl | rfl
  · cases completed
    exact valid
  · cases completed
    exact valid

theorem get?_image (converses : p.Converses) (sanitized : p.sanitize fresh raw = .ok o) :
    o.get? "image" = none := by
  refine get?_of_validate (converses.validate_of_sanitize sanitized) ?_
  rcases converses with rfl | rfl <;> decide

/-- A conversation that gets through is what the caller has sent: a list or a keyed structure. -/
theorem of_given (converses : p.Converses) (sanitized : p.sanitize fresh raw = .ok o)
    (given : o.get? "conversationcontext" = some context) :
    ("conversationcontext", context) ∈ raw ∧
      ((∃ items, context = .array items) ∨ ∃ members, context = .object members) := by
  obtain ⟨type, v, sent, declared, coerced⟩ :=
    exists_of_validate (converses.validate_of_sanitize sanitized) given
  have array : Keyed.get? "conversationcontext" p.schema = some .array := by
    rcases converses with rfl | rfl <;> decide
  cases declared.symm.trans array
  obtain rfl := eq_of_coerce?_array coerced
  refine ⟨sent, ?_⟩
  cases v with
  | array items => exact .inl ⟨items, rfl⟩
  | object members => exact .inr ⟨members, rfl⟩
  | _ => cases coerced

end Purpose.Converses

namespace Broker

open Chat (SentAs Wordless Tells Passes Loses Sends)

variable {q : Request} {b b₁ : Broker} {w w₁ : World} {route : Route} {o : Options} {text : String}
  {context : Json} {f : Failure} {p : Http.Payload}

/-! ### Requests -/

/-- The request has this payload and goes on with it at once. -/
def GoesOut (q : Request) (b : Broker) (w : World) (route : Route) (o : Options) (text : String)
    (b₁ : Broker) (w₁ : World) (p : Http.Payload) : Prop :=
  route.connector.payload? text o = some (.ok p) ∧
    ∃ c flag, Forwards q b w route.name c p (b₁.planned route.name c flag) w₁

/-- The request has no payload for this reason, and returns at once. Nothing has been asked for but
the pages of documentation that are part of the prompt. -/
def TurnsDown (q : Request) (b : Broker) (w : World) (route : Route) (o : Options) (text : String)
    (w₁ : World) (f : Failure) : Prop :=
  route.connector.payload? text o = some (.error f) ∧
    (∃ b', q.make b w = .ok ((.ofFailure f, b'), w₁)) ∧
    route.connector.Within text o (q.purpose.pages o) w w₁

/-- The request tells the provider every entry of the conversation, in front of the prompt; or an
entry cannot be told, and the request is refused before the provider is called. -/
inductive Conveys (q : Request) (b : Broker) (w : World) (route : Route) (o : Options)
    (text : String) (b₁ : Broker) (w₁ : World) (entries : List Json) : Prop
  | told {told p} (each : List.Forall₂ Tells entries told)
      (sends : Sends p (told ++ [Chat.message "user" text]))
      (goesOut : GoesOut q b w route o text b₁ w₁ p)
  | refused {entry details} (mem : entry ∈ entries) (untold : ∀ m, ¬Tells entry m)
      (turnsDown : TurnsDown q b w route o text w₁
        (.invalidParameter "conversationcontext" details))

namespace Admitted

variable (admitted : Admitted q b w route o text b₁ w₁)

include admitted

theorem goesOut (ollama : route.connector.binding = .ollama)
    (payload : route.connector.payload? text o = some (.ok p)) :
    GoesOut q b w route o text b₁ w₁ p := by
  have plan := congrFun
    (Connector.plan_of_payload (b₁.flags.status VectorStore.flagKey) payload) w₁
  have prepares : Prepares Embeds q.caller route text o b₁ w₁ none _ _ _ _ := .ready plan
  have dateless : route.connector.provider ≠ .imagen := by
    rw [Connector.provider, ollama]
    decide
  exact ⟨payload, _, _, prepares.forwards admitted dateless⟩

theorem turnsDown (payload : route.connector.payload? text o = some (.error f)) :
    TurnsDown q b w route o text w₁ f := by
  have plan := congrFun
    (Connector.plan_of_payload (b₁.flags.status VectorStore.flagKey) payload) w₁
  have course : Course Embeds q b w none _ _ w₁ := .unprepared admitted (.unplanned plan)
  have fresh : route.connector.Within text o [] w w.drawName := Connector.within_of_idle rfl
  exact ⟨payload, ⟨_, make_eq_ok_iff.2 ⟨_, course⟩⟩,
    fresh.trans (Connector.within_of_formatPrompt admitted.formatted)⟩

variable (converses : q.purpose.Converses)

include converses

theorem binding_of_converses : route.connector.binding = .ollama :=
  Connector.binding_of_conversation converses (serves_of_gate admitted.gate)

theorem payload?_of_converses :
    route.connector.payload? text o = some (Chat.payload route.connector.config text o) := by
  unfold Connector.payload?
  rw [admitted.binding_of_converses converses]

/-- A list of entries goes out, each in a message of its own, or the request is refused. -/
theorem goesOut_or_turnsDown {items : List Json}
    (given : o.get? "conversationcontext" = some (.array items)) :
    (∃ told p, List.Forall₂ Passes items told ∧
      Sends p (told ++ [Chat.message "user" text]) ∧ GoesOut q b w route o text b₁ w₁ p) ∨
    ∃ entry ∈ items, (∀ role, ¬SentAs entry role) ∧ ∃ details,
      TurnsDown q b w route o text w₁ (.invalidParameter "conversationcontext" details) := by
  have binding := admitted.binding_of_converses converses
  have payload := admitted.payload?_of_converses converses
  rcases Chat.payload_of_list given route.connector.config text with
    ⟨told, p, each, made, sends⟩ | ⟨entry, mem, unsent, details, failed⟩
  · exact .inl ⟨told, p, each, sends,
      admitted.goesOut binding (payload.trans (congrArg some made))⟩
  · exact .inr ⟨entry, mem, unsent, details,
      admitted.turnsDown (payload.trans (congrArg some failed))⟩

/-- A list of entries is conveyed unless all of it goes out and one of its messages is no text. -/
theorem conveys_iff_of_list {items : List Json}
    (given : o.get? "conversationcontext" = some (.array items)) :
    Conveys q b w route o text b₁ w₁ items ↔ ¬Loses (.array items) := by
  rcases admitted.goesOut_or_turnsDown converses given with
    ⟨told, p, each, sends, goesOut⟩ | ⟨entry, mem, unsent, details, turnsDown⟩
  · constructor
    · rintro (⟨each', -, -⟩ | ⟨-, -, turnsDown⟩) (_ | ⟨-, mem, wordless⟩)
      · exact (Chat.worded_of_tells each') _ mem wordless
      · cases goesOut.1.symm.trans turnsDown.1
    · intro kept
      have sent := Chat.sent_of_passes each
      have worded : ∀ entry ∈ items, ¬Wordless entry := fun entry mem wordless =>
        kept (.wordless sent mem wordless)
      have both := (List.forall₂_and_left _ _).2 ⟨worded, each⟩
      refine .told (both.imp fun entry m ⟨worded, passes⟩ => ?_) sends goesOut
      exact passes.resolve_right fun ⟨_, wordless⟩ => worded wordless
  · refine iff_of_true (.refused mem (fun m ⟨sent, _⟩ => unsent _ sent) turnsDown) ?_
    rintro (_ | ⟨sent, -, -⟩)
    obtain ⟨role, sent⟩ := sent entry mem
    exact unsent role sent

/-- Instead of a keyed structure there is the prompt alone. -/
theorem goesOut_of_keyed {members : List (String × Json)}
    (given : o.get? "conversationcontext" = some (.object members)) :
    ∃ p, Sends p [Chat.message "user" text] ∧ GoesOut q b w route o text b₁ w₁ p := by
  have binding := admitted.binding_of_converses converses
  have payload := admitted.payload?_of_converses converses
  obtain ⟨p, made, sends⟩ := Chat.payload_of_keyed given (converses.get?_image admitted.sanitized)
    route.connector.config text
  exact ⟨p, sends, admitted.goesOut binding (payload.trans (congrArg some made))⟩

/-- So no entry of it is conveyed. -/
theorem eq_nil_of_conveys {members : List (String × Json)} {entries : List Json}
    (given : o.get? "conversationcontext" = some (.object members))
    (conveys : Conveys q b w route o text b₁ w₁ entries) : entries = [] := by
  obtain ⟨p, alone, payload, -⟩ := admitted.goesOut_of_keyed converses given
  cases conveys with
  | @told told p' each sends goesOut =>
    cases payload.symm.trans goesOut.1
    have same := congrArg List.length (sends.unique alone)
    rw [List.length_append, List.length_singleton, ← each.length_eq] at same
    exact List.length_eq_zero_iff.1 (by omega)
  | refused _ _ turnsDown => cases payload.symm.trans turnsDown.1

end Admitted

/-- A conversation that has been accepted is conveyed unless something of it is lost, that is,
unless it is a keyed structure with an entry, or a list in which a message is no text and no sender
is unknown. Of such a structure nothing reaches the provider: the prompt is sent alone. Of such a
list every entry does, but one whose message is no text as an empty message. -/
theorem conveys_iff (converses : q.purpose.Converses) (admitted : Admitted q b w route o text b₁ w₁)
    (given : o.get? "conversationcontext" = some context) :
    (("conversationcontext", context) ∈ q.raw ∧
      ((∃ items, context = .array items) ∨ ∃ members, context = .object members)) ∧
    (Conveys q b w route o text b₁ w₁ (Chat.entries context) ↔ ¬Loses context) ∧
    (∀ members, context = .object members →
      ∃ p, Sends p [Chat.message "user" text] ∧ GoesOut q b w route o text b₁ w₁ p) ∧
    ∀ items, context = .array items → (∀ entry ∈ items, ∃ role, SentAs entry role) →
      ∃ told p, List.Forall₂ Passes items told ∧
        Sends p (told ++ [Chat.message "user" text]) ∧ GoesOut q b w route o text b₁ w₁ p := by
  have sent := converses.of_given admitted.sanitized given
  refine ⟨sent, ?_, fun members keyed => admitted.goesOut_of_keyed converses (keyed ▸ given),
    fun items listed known => ?_⟩
  · obtain ⟨-, ⟨items, rfl⟩ | ⟨members, rfl⟩⟩ := sent
    · exact admitted.conveys_iff_of_list converses given
    · constructor
      · rintro conveys ⟨filled⟩
        exact filled (List.map_eq_nil_iff.1 (admitted.eq_nil_of_conveys converses given conveys))
      · intro kept
        obtain rfl : members = [] := by_contra fun filled => kept (.keyed filled)
        obtain ⟨p, sends, goesOut⟩ := admitted.goesOut_of_keyed converses given
        exact .told .nil sends goesOut
  · rcases admitted.goesOut_or_turnsDown converses (listed ▸ given) with
      goesOut | ⟨entry, mem, unsent, -⟩
    · exact goesOut
    · obtain ⟨role, sent⟩ := known entry mem
      exact absurd sent (unsent role)

namespace Sample

/-- What a sender has said. -/
def entry (sender said : String) : Json :=
  .object [("message", .string said), ("sender", .string sender)]

/-- A chat that goes on with a conversation. -/
def talk (context : Json) : Request :=
  ⟨caller, .chat, "How?", 1, [("conversationcontext", context)]⟩

theorem admitted_talk {context : Json} {w : World}
    (sanitized : Purpose.chat.sanitize (w.names w.drawn) (talk context).raw =
      .ok [("conversationcontext", context)]) :
    Admitted (talk context) (broker 1) w ⟨"local", ⟨instance_, .ollama⟩⟩
      [("conversationcontext", context)] "How?" (broker 1) w.drawName where
  gate := by with_unfolding_all rfl
  sanitized := sanitized
  formatted := rfl

/-- A conversation with all three kinds of senders. -/
def interview : List Json :=
  [entry "system" "Be brief", entry "user" "Hi", entry "ai" "Hello!"]

end Sample

/-- The three senders are told under their roles, and the prompt comes last. -/
theorem conveys_interview : ∃ p,
    Sends p [Chat.message "system" "Be brief", Chat.message "user" "Hi",
      Chat.message "assistant" "Hello!", Chat.message "user" "How?"] ∧
    GoesOut (Sample.talk (.array Sample.interview)) (Sample.broker 1) (Sample.world [])
      ⟨"local", ⟨Sample.instance_, .ollama⟩⟩ [("conversationcontext", .array Sample.interview)]
      "How?" (Sample.broker 1) (Sample.world []).drawName p := by
  have admitted : Admitted (Sample.talk (.array Sample.interview)) (Sample.broker 1)
      (Sample.world []) _ _ _ _ _ := Sample.admitted_talk (by with_unfolding_all rfl)
  obtain ⟨-, conveyed, -⟩ := conveys_iff (.inl rfl) admitted rfl
  have mapped : Sample.interview.mapM Chat.earlierMessage =
      .ok [Chat.message "system" "Be brief", Chat.message "user" "Hi",
        Chat.message "assistant" "Hello!"] := rfl
  have spoken : ∀ entry ∈ Sample.interview, ∃ m, Tells entry m := by
    simp only [Sample.interview, List.forall_mem_cons]
    exact ⟨⟨_, .intro (@SentAs.intro _ "system" "system" (by decide) rfl) rfl⟩,
      ⟨_, .intro (@SentAs.intro _ "user" "user" (by decide) rfl) rfl⟩,
      ⟨_, .intro (@SentAs.intro _ "ai" "assistant" (by decide) rfl) rfl⟩, nofun⟩
  have kept : ¬Loses (.array Sample.interview) := by
    rintro (_ | ⟨-, mem, wordless⟩)
    obtain ⟨_, ⟨-, said⟩⟩ := spoken _ mem
    exact wordless _ said
  cases conveyed.2 kept with
  | @told told p each sends goesOut =>
    cases mapped.symm.trans
      (Outcome.mapM_eq_ok.2 (each.imp fun _ _ tells => Chat.earlierMessage_eq_ok.2 (.inl tells)))
    exact ⟨p, sends, goesOut⟩
  | @refused entry _ mem untold =>
    obtain ⟨m, tells⟩ := spoken entry mem
    exact absurd tells (untold m)

/-- Not every conversation is conveyed: the one entry of a keyed structure is lost. -/
theorem not_forall_conveys : ¬∀ (q : Request) (b : Broker) (w : World) route o text b₁ w₁ context,
    q.purpose.Converses → Admitted q b w route o text b₁ w₁ →
      o.get? "conversationcontext" = some context →
        Conveys q b w route o text b₁ w₁ (Chat.entries context) := by
  intro conveys
  have admitted : Admitted (Sample.talk (.object [("0", Sample.entry "user" "Hi")]))
      (Sample.broker 1) (Sample.world []) _ _ _ _ _ :=
    Sample.admitted_talk (by with_unfolding_all rfl)
  have conveyed := conveys _ _ _ _ _ _ _ _ _ (.inl rfl) admitted rfl
  cases admitted.eq_nil_of_conveys (.inl rfl) rfl conveyed

end Broker

end PromptBroker
