import EpisodeGuide.Http.Message
import EpisodeGuide.Provider.LoginReply
import EpisodeGuide.Text.Blank

/-!
Tokens and logins. A token is trusted for one day from its issue. A login posts the key and is
accepted when the reply reports success and carries a token; every other outcome has a cause of its
own.
-/

namespace EpisodeGuide

open Http Json Provider

/-- Seconds for which an issued token is trusted. -/
def tokenLifetime : Int := 86400

structure Token where
  value : String
  expiresAt : Int
  deriving DecidableEq, Repr

def Token.isValid (now : Int) (t : Token) : Bool :=
  now < t.expiresAt

inductive LoginError where
  | missingApiKey
  | transport (e : TransportError)
  | status (code : Nat)
  | rejected (reason : String)
  /-- The reply could not be read; the reader's own words, if any. -/
  | unreadable (detail : Option String)
  | missingToken
  deriving DecidableEq, Repr

def withDetail (sentence : String) : Option String → String
  | some detail => sentence ++ ": " ++ detail
  | none => sentence

def LoginError.message : LoginError → String
  | .missingApiKey => "No API key configured"
  | .transport e => "Login request failed: " ++ e.message
  | .status code => "Login failed with status " ++ toString code
  | .rejected reason => "Login rejected: " ++ reason
  | .unreadable detail => withDetail "Failed to parse login response" detail
  | .missingToken => "Login response did not contain a token"

/-- The key for logins, the address of logins, and the token that was issued last. -/
structure Authenticator where
  apiKey : Option String
  loginUrl : String
  token : Option Token
  deriving DecidableEq, Repr

namespace Authenticator

/-- An authenticator below a base URL, without a token. A blank key counts as none. -/
def new (apiKey : Option String) (baseUrl : String) : Authenticator where
  apiKey := Text.nonBlank? apiKey
  loginUrl := Text.dropTrailing '/' baseUrl ++ "/login"
  token := none

def currentToken (now : Int) (a : Authenticator) : Option Token :=
  a.token.filter (·.isValid now)

def invalidate (a : Authenticator) : Authenticator :=
  { a with token := none }

def loginRequest (a : Authenticator) (key : String) : Request :=
  .postJson a.loginUrl (.object [("apikey", .text key)])

def accept (now : Int) (reply : Reply) : Except LoginError Token :=
  if reply.status ≠ 200 then .error (.status reply.status)
  else
    match LoginReply.ofText? reply.body with
    | none => .error (.unreadable none)
    | some payload =>
      if payload.status ≠ some "success" then
        .error (.rejected (payload.message.getD "Unknown error"))
      else
        match payload.token.filter (fun t => !t.isEmpty) with
        | none => .error .missingToken
        | some value => .ok ⟨value, now + tokenLifetime⟩

/-- Logs in; without a key nothing is sent. -/
def login {σ : Type} (send : Transport σ) (now : Int) (a : Authenticator) (link : σ) :
    Except LoginError Token × σ :=
  match a.apiKey with
  | none => (.error .missingApiKey, link)
  | some key =>
    match send (a.loginRequest key) link with
    | (.error e, link) => (.error (.transport e), link)
    | (.ok reply, link) => (accept now reply, link)

end Authenticator

end EpisodeGuide
