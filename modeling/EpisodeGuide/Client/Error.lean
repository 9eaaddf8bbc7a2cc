import EpisodeGuide.Auth
import EpisodeGuide.Url.Reader

/-!
What can end a walk over the pages of a listing before its end.
-/

namespace EpisodeGuide

open Http

inductive PageError where
  | noToken
  | unauthorized
  | status (code : Nat)
  | transport (e : TransportError)
  /-- The reply could not be read; the reader's own words, if any. -/
  | unreadable (detail : Option String)
  /-- The base URL cannot be read, or it can but has no path to extend. -/
  | unusableUrl (base : String) (cause : Option UrlError)
  deriving DecidableEq, Repr

def PageError.message : PageError → String
  | .noToken => "No authentication token available"
  | .unauthorized => "Token rejected by the API"
  | .status code => "Request failed with status " ++ toString code
  | .transport e => e.message
  | .unreadable detail => withDetail "Failed to parse API response" detail
  | .unusableUrl base cause => withDetail ("Invalid API URL: " ++ base) (cause.map UrlError.message)

end EpisodeGuide
