import EpisodeGuide.Http.Message
import EpisodeGuide.Json.Printer
import EpisodeGuide.Text.Base64
import EpisodeGuide.Text.Utf8
import EpisodeGuide.Url.Form
import EpisodeGuide.Url.Reader

/-!
Requests as they go over a connection. A request is made ready first: its URL must be readable and
name a host, its pairs go into the query, and its credential must fit into a header. Then the peer
takes it and answers, or does not.
-/

namespace EpisodeGuide.Http

open Url

/-- A request as a peer receives it. Header names are in lower case; the host is left out. -/
structure WireRequest where
  method : Method
  target : String
  headers : List (String × String)
  body : String
  deriving DecidableEq, Repr

/-- Why a request has no reply, or a reply no body. -/
inductive WireFault where
  /-- The request cannot be made; the URL at fault, if it is one. -/
  | unusable (url : Option String)
  | unanswered (url : String)
  | cutOff
  deriving DecidableEq, Repr

def WireFault.message : WireFault → String
  | .unusable none => "builder error"
  | .unusable (some url) => "builder error for url (" ++ url ++ ")"
  | .unanswered url => "error sending request for url (" ++ url ++ ")"
  | .cutOff => "error decoding response body"

structure Outgoing where
  url : Url
  request : WireRequest

def userAgent : String := "tvdb_episodes/0.1.0"

def fitsHeader (c : Char) : Bool :=
  c == '\t' || (32 ≤ c.toNat && c.toNat != 127)

def userText? (coded : List Char) : Option (List Char) :=
  decodeUtf8? (percentDecode coded)

/-- The credential that a URL carries, if it carries one that is text. -/
def urlCredential? (u : Url) : Option (List Char) :=
  u.authority?.bind fun a =>
    match userText? a.username, if a.password.isEmpty then none else userText? a.password with
    | some [], none | none, _ => none
    | some name, password => some (name ++ ':' :: password.getD [])

def basicHeader (credential : List Char) : String × String :=
  ("authorization",
    "Basic " ++ String.ofList (Text.base64 (String.ofList credential).toUTF8.toList))

def bearerHeader (credential : String) : String × String :=
  ("authorization", "Bearer " ++ credential)

/-- The length of a URL from which on it cannot be sent. -/
def urlLimit : Nat := 65535

/-- Whether a URL can go into a request: it is short enough, and its host holds no quotes and
braces. -/
def isSendable (u : Url) : Bool :=
  (u.authority?.all fun a => !a.host.print.any ("\"`\x7b\x7d".contains ·)) &&
    u.print.length < urlLimit

def targetOf (u : Url) : String :=
  let path :=
    match u.location with
    | .plain text => text
    | .hierarchical _ path => if path.isEmpty then ['/'] else Path.print path
  String.ofList (path ++ printOptional '?' u.query)

def isWeb (u : Url) : Bool :=
  u.scheme == "http".toList || u.scheme == "https".toList

namespace Request

def readUrl (r : Request) : Except WireFault Url :=
  match Url.ofText r.url with
  | .error _ => .error (.unusable none)
  | .ok u => if u.hasHost then .ok u else .error (.unusable (some u.text))

def pairs (r : Request) : List (List Char × List Char) :=
  r.query.map fun (key, value) => (key.toList, value.toList)

def headers (credential : Option (List Char)) (r : Request) : List (String × String) :=
  (credential.map basicHeader).toList ++ (r.bearer.map bearerHeader).toList ++
    [("accept", "*/*"), ("user-agent", userAgent)] ++
    match r.body with
    | some body =>
      [("content-type", "application/json"),
        ("content-length", toString body.compactText.utf8ByteSize)]
    | none => []

def outgoing (r : Request) : Except WireFault Outgoing := do
  let named ← r.readUrl
  let credential := urlCredential? named
  let url := (if credential.isSome then named.withoutUserinfo else named).withPairs r.pairs
  if !(r.bearer.getD "").toList.all fitsHeader then throw (.unusable none)
  if !isWeb url || !isSendable url then throw (.unusable (some url.text))
  return ⟨url, ⟨r.method, targetOf url, r.headers credential, (r.body.map (·.compactText)).getD ""⟩⟩

end Request

structure WireReply where
  status : Nat
  body : List UInt8
  /-- The body ends before its declared length. -/
  short : Bool
  deriving DecidableEq, Repr

/-- A peer with prepared replies, and the requests that reached it, the first one in front. -/
structure Peer where
  /-- Scheme, host and port. -/
  origin : String
  listening : Bool
  replies : List WireReply
  received : List WireRequest
  deriving DecidableEq, Repr

namespace Peer

def isReachedBy (u : Url) (p : Peer) : Bool :=
  match Url.ofText p.origin with
  | .ok origin => p.listening && u.scheme == origin.scheme && u.authority? == origin.authority?
  | .error _ => false

/-- Hands a request to the peer. A peer without replies hangs up. -/
def exchange (o : Outgoing) (p : Peer) : Except WireFault WireReply × Peer :=
  if p.isReachedBy o.url then
    let received := p.received ++ [o.request]
    match p.replies with
    | reply :: rest => (.ok reply, { p with replies := rest, received := received })
    | [] => (.error (.unanswered o.url.text), { p with received := received })
  else (.error (.unanswered o.url.text), p)

def readReply (url : String) (reply : WireReply) : Except TransportError Reply :=
  if reply.short then .error (.bodyReadFailed url WireFault.cutOff.message)
  else .ok ⟨reply.status, Text.decodeLossy reply.body⟩

def send : Transport Peer := fun request p =>
  match request.outgoing with
  | .error fault => (.error (.requestFailed request.url fault.message), p)
  | .ok outgoing =>
    match p.exchange outgoing with
    | (.error fault, p) => (.error (.requestFailed request.url fault.message), p)
    | (.ok reply, p) => (readReply request.url reply, p)

def enqueue (replies : List WireReply) (p : Peer) : Peer :=
  { p with replies := p.replies ++ replies }

end Peer

end EpisodeGuide.Http
