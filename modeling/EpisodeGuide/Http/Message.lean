import EpisodeGuide.Json.Value

/-!
Requests to the provider and its replies. A request names a URL without the pairs that go into its
query, may carry one bearer credential, and has a JSON body when it posts one.
-/

namespace EpisodeGuide.Http

open Json

inductive Method where
  | get
  | post
  deriving DecidableEq, Repr

structure Request where
  method : Method
  url : String
  bearer : Option String
  query : List (String × String)
  body : Option Value

namespace Request

def get (url : String) : Request :=
  ⟨.get, url, none, [], none⟩

def postJson (url : String) (body : Value) : Request :=
  ⟨.post, url, none, [], some body⟩

/-- Sets the credential; the last one counts. -/
def withBearer (credential : String) (r : Request) : Request :=
  { r with bearer := some credential }

def withQuery (key value : String) (r : Request) : Request :=
  { r with query := r.query ++ [(key, value)] }

end Request

structure Reply where
  status : Nat
  body : String
  deriving DecidableEq, Repr

inductive TransportError where
  | clientBuildFailed (reason : String)
  | requestFailed (url reason : String)
  | bodyReadFailed (url reason : String)
  deriving DecidableEq, Repr

def TransportError.message : TransportError → String
  | .clientBuildFailed reason => "Failed to build HTTP client: " ++ reason
  | .requestFailed url reason => "Request to " ++ url ++ " failed: " ++ reason
  | .bodyReadFailed url reason => "Failed to read response body from " ++ url ++ ": " ++ reason

/-- A way to exchange requests for replies, over a state of its own. -/
abbrev Transport (σ : Type) :=
  Request → σ → Except TransportError Reply × σ

end EpisodeGuide.Http
