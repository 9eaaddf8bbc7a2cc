import EpisodeGuide.Json.Fields

/-!
Replies to a login. A reply names its status, carries a token on success and a reason on failure;
each of these may be missing.
-/

namespace EpisodeGuide.Provider

open Json

structure LoginReply where
  status : Option String
  token : Option String
  message : Option String
  deriving DecidableEq, Repr

namespace LoginReply

def readToken? (d : Document) : Option (Option String) :=
  match d.fields? ["token"] with
  | some [token] => optional? Document.readText? token
  | _ => none

def ofDocument? (d : Document) : Option LoginReply :=
  match d.fields? ["status", "data", "message"] with
  | some [status, data, message] => do
    let status ← optional? Document.readText? status
    let token ← optional? readToken? data
    let message ← optional? Document.readText? message
    return ⟨status, token.join, message⟩
  | _ => none

def ofText? (s : String) : Option LoginReply :=
  (Document.ofText? s).bind ofDocument?

end LoginReply

end EpisodeGuide.Provider
