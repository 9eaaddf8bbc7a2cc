import EpisodeGuide.Log

/-!
A client at work: its settings, the token that it holds, the transport it sends over and the events
so far. Asking for a token logs in only when none is held that is still valid.
-/

namespace EpisodeGuide

open Http

def defaultBaseUrl : String := "https://api4.thetvdb.com/v4"

/-- The most pages of one listing, unless set otherwise. -/
def defaultMaxPages : UInt32 := 1000

structure Client where
  auth : Authenticator
  baseUrl : String
  maxPages : UInt32
  deriving DecidableEq, Repr

/-- A client below a base URL, whose slashes at the end do not count. -/
def Client.new (apiKey : Option String) (baseUrl : String) : Client where
  auth := .new apiKey baseUrl
  baseUrl := Text.dropTrailing '/' baseUrl
  maxPages := defaultMaxPages

def Client.withMaxPages (maxPages : UInt32) (c : Client) : Client :=
  { c with maxPages := maxPages }

structure Session (σ : Type) where
  client : Client
  link : σ
  log : List Event

namespace Session

variable {σ : Type}

def note (e : Event) (s : Session σ) : Session σ :=
  { s with log := s.log ++ [e] }

def setToken (token : Option Token) (s : Session σ) : Session σ :=
  { s with client := { s.client with auth := { s.client.auth with token := token } } }

def currentToken (now : Int) (s : Session σ) : Option Token :=
  s.client.auth.currentToken now

/-- A valid token: the one held, or a new one. A failed login leaves what was held. -/
def getToken (send : Transport σ) (now : Int) (s : Session σ) : Option Token × Session σ :=
  match s.currentToken now with
  | some token => (some token, s)
  | none =>
    match s.client.auth.login send now s.link with
    | (.ok token, link) =>
      (some token, (setToken (some token) { s with link := link }).note .authenticated)
    | (.error .missingApiKey, link) => (none, { s with link := link }.note .keyMissing)
    | (.error e, link) => (none, { s with link := link }.note (.loginFailed e))

def invalidate (s : Session σ) : Session σ :=
  s.setToken none

end Session

end EpisodeGuide
