import PromptBroker.Http.Message
import PromptBroker.Text.Utf8

/-!
# Calls to a peer

The network is a peer that listens under some schemes and answers by a script:
each request that reaches it takes the next turn, and when the script is used up
the peer closes the connection. A *call* is what the program asks for; it may
take several requests, because redirects are followed. The peer keeps a record of
all calls, with the requests that it received for each.
-/

namespace PromptBroker.Http

/-- What the peer does with a request. -/
inductive Turn where
  | reply (r : Reply)
  /-- The body ends before its announced length. -/
  | truncated (r : Reply)
  /-- The connection is closed without an answer. -/
  | close
  /-- There is no answer within the time allowed. -/
  | silence

/-- The reply of a turn, and whether it arrives whole. -/
def Turn.reply? : Turn → Option (Reply × Bool)
  | .reply r => some (r, true)
  | .truncated r => some (r, false)
  | .close | .silence => none

/-- Whether the client waits in vain. -/
def Turn.isSilence : Turn → Bool
  | .silence => true
  | _ => false

/-- A call on record. -/
structure Call where
  /-- What was asked for. -/
  request : Request
  /-- The requests that the peer received for it, in order. -/
  hops : List Request

/-- The other side of the network. -/
structure Peer where
  /-- The schemes under which the peer can be reached. -/
  schemes : List (List Char)
  /-- The turns to come. -/
  script : List Turn
  /-- The calls made so far. -/
  calls : List Call

namespace Peer

/-- Whether an address leads to the peer. -/
def listensTo (p : Peer) (url : Url) : Bool := p.schemes.contains url.scheme

/-- Takes the next turn. -/
def next (p : Peer) : Turn × Peer :=
  match p.script with
  | [] => (.close, p)
  | t :: rest => (t, { p with script := rest })

/-- Puts a call on record. -/
def record (p : Peer) (c : Call) : Peer := { p with calls := p.calls ++ [c] }

end Peer

/-- Why a call got no answer. -/
inductive CallError where
  /-- The address cannot be called; one that cannot even be read has no written form. -/
  | badAddress (url : Option Url)
  /-- No answer arrived. -/
  | unanswered (url : Url) (timedOut : Bool)
  /-- One redirect too many. -/
  | tooManyRedirects (url : Url)

/-- The text of the error. -/
def CallError.message : CallError → String
  | .badAddress none => "builder error"
  | .badAddress (some url) => s!"builder error for url ({url.toText})"
  | .unanswered url _ => s!"error sending request for url ({url.toText})"
  | .tooManyRedirects url => s!"error following redirect for url ({url.toText})"

/-- Whether time ran out. -/
def CallError.isTimeout : CallError → Bool
  | .unanswered _ timedOut => timedOut
  | _ => false

/-- The final answer to a call. The body is missing if it broke off. -/
structure Answer where
  status : UInt16
  headers : Keyed ByteArray
  body : Option ByteArray

/-- What is said about a body that broke off or does not hold what it should. -/
def bodyFault : String := "error decoding response body"

/-- The answer that a reply amounts to. -/
def Reply.answer (r : Reply) (whole : Bool) : Answer :=
  if Status.isBodiless r.status then ⟨r.status, r.headers, some .empty⟩
  else ⟨r.status, r.headers, if whole then some r.body else none⟩

/-! ### Redirects -/

/-- Where a reply sends the client instead. -/
def Reply.location? (r : Reply) (from_ : Url) : Option Url := do
  from_.join? (← Text.Utf8.decode? (← r.headers.get? "location"))

/-- Whether a request can be sent a second time; files are streamed and cannot. -/
def Body.isRepeatable : Body → Bool
  | .upload _ => false
  | _ => true

/-- Credentials are not carried over to another host. -/
def Request.movedTo (q : Request) (url : Url) : Request :=
  let sameHost := q.url.host == url.host && q.url.portNumber == url.portNumber
  { q with
    url := url
    headers := if sameHost then q.headers else q.headers.erase "authorization" }

/-- The request that a reply redirects to. -/
def Request.redirected? (q : Request) (r : Reply) : Option Request :=
  if Status.redirectsToGet r.status then
    (r.location? q.url).map fun url =>
      let plain : Request :=
        { q with
          method := if q.method = .head then .head else .get
          headers := q.headers.erase "content-type"
          body := .empty }
      plain.movedTo url
  else if Status.redirectsAsIs r.status && q.body.isRepeatable then
    (r.location? q.url).map q.movedTo
  else none

/-! ### Addresses -/

/-- The longest address that can be called. -/
def maxAddress : Nat := 65534

/-- Characters that a host may contain, but not one that is called. -/
def uncallable (c : Char) : Bool := ['"', '\x60', '\x7b', '\x7d'].contains c

/-- Whether an address can be called. -/
def Url.isCallable (u : Url) : Bool :=
  u.isHttp && !((u.host.getD []).any uncallable) && u.chars.length ≤ maxAddress

/-! ### Calls -/

/-- How many redirects a call follows. -/
def redirectLimit : Nat := 10

/-- Sends a request and follows redirects, at most `budget` of them. `hops` are the requests of
this call that the peer has received already. -/
def follow (budget : Nat) (q : Request) (hops : List Request) (p : Peer) :
    Except CallError Answer × List Request × Peer :=
  if !q.url.isHttp then (.error (.badAddress (some q.url)), hops, p)
  else if !p.listensTo q.url then (.error (.unanswered q.url false), hops, p)
  else
    let hops := hops ++ [{ q with url := q.url.asSent }]
    let (turn, p) := p.next
    match turn.reply? with
    | none => (.error (.unanswered q.url turn.isSilence), hops, p)
    | some (r, whole) =>
      match q.redirected? r, budget with
      | none, _ => (.ok (r.answer whole), hops, p)
      | some _, 0 => (.error (.tooManyRedirects q.url), hops, p)
      | some next, budget + 1 => follow budget next hops p

/-- Makes a call. Nothing is put on record for an address that cannot be called. -/
def call (method : Method) (url : String) (headers : Headers) (body : Body) (p : Peer) :
    Except CallError Answer × Peer :=
  match Url.parse? url with
  | none => (.error (.badAddress none), p)
  | some u =>
    if !u.detached.isCallable then (.error (.badAddress (some u.detached)), p)
    else
      let q := Request.make method u headers body
      match follow redirectLimit q [] p with
      | (answer, hops, p) => (answer, p.record ⟨q, hops⟩)

end PromptBroker.Http
