import EpisodeGuide.Http.Message

/-!
A transport that plays back prepared replies in order and remembers every request. When the replies
have run out, a request fails.
-/

namespace EpisodeGuide.Http

/-- What a request is answered with: a reply, no reply, or a reply whose body cannot be read. -/
inductive Answer where
  | reply (r : Reply)
  | noReply (reason : String)
  | noBody (reason : String)
  deriving DecidableEq, Repr

def Answer.outcome (url : String) : Answer → Except TransportError Reply
  | .reply r => .ok r
  | .noReply reason => .error (.requestFailed url reason)
  | .noBody reason => .error (.bodyReadFailed url reason)

/-- The answers still to come, and the requests so far, the first one in front. -/
structure Script where
  answers : List Answer
  sent : List Request

namespace Script

def send : Transport Script := fun request script =>
  let sent := script.sent ++ [request]
  match script.answers with
  | answer :: rest => (answer.outcome request.url, ⟨rest, sent⟩)
  | [] => (.error (.requestFailed request.url "no scripted response left"), ⟨[], sent⟩)

def enqueue (answers : List Answer) (script : Script) : Script :=
  { script with answers := script.answers ++ answers }

end Script

end EpisodeGuide.Http
