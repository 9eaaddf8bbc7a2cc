import EpisodeGuide.Cache.Error
import EpisodeGuide.Client.Error

/-!
Events that lookups leave behind. An event is a cause with what belongs to it; its level, its
sentence and its fields follow from the cause.
-/

namespace EpisodeGuide

inductive Level where
  | debug
  | warn
  | error
  deriving DecidableEq, Repr

inductive Event where
  | authenticated
  | keyMissing
  | loginFailed (e : LoginError)
  | urlUnusable (series : String) (e : PageError)
  | pageLimitReached (series : String) (maxPages : UInt32)
  | tokenMissing (series : String) (page : Nat)
  | tokenRejected (page : Nat)
  | pageFailed (series : String) (page : Nat) (e : PageError)
  | fetched (series : String) (count : Nat)
  | cacheHit (series : String) (count : Nat)
  | cacheExpired (series : String)
  | cacheWritten (series : String) (count : Nat)
  | cacheReadFailed (series : String) (e : CacheError)
  | cacheWriteFailed (series : String) (e : CacheError)
  | seriesCleared (series : String) (removed : Nat)
  | allCleared (removed : Nat)
  | clearFailed (e : CacheError)
  deriving DecidableEq, Repr

inductive FieldValue where
  | text (s : String)
  | number (n : Nat)
  deriving DecidableEq, Repr

namespace Event

def level : Event → Level
  | .authenticated | .tokenMissing .. | .fetched .. | .cacheHit .. | .cacheExpired ..
  | .cacheWritten .. | .seriesCleared .. | .allCleared .. => .debug
  | .keyMissing | .pageLimitReached .. | .tokenRejected .. | .cacheReadFailed ..
  | .cacheWriteFailed .. | .clearFailed .. => .warn
  | .loginFailed .. | .urlUnusable .. | .pageFailed .. => .error

def message : Event → String
  | .authenticated => "Authentication with TheTVDB successful"
  | .keyMissing => "No TheTVDB API key configured"
  | .loginFailed e => "TheTVDB authentication failed: " ++ e.message
  | .urlUnusable _ e => "Cannot build episodes URL: " ++ e.message
  | .pageLimitReached .. => "Page limit reached, returning episodes fetched so far"
  | .tokenMissing .. => "No token available, stopping fetch"
  | .tokenRejected _ => "Token expired, re-authenticating and retrying"
  | .pageFailed _ _ e => "Episode request failed: " ++ e.message
  | .fetched .. => "Fetched episodes"
  | .cacheHit .. => "Using cached episodes"
  | .cacheExpired _ => "Cached episodes expired"
  | .cacheWritten .. => "Cached episodes"
  | .cacheReadFailed _ e => "Failed to read cached episodes: " ++ e.message
  | .cacheWriteFailed _ e => "Failed to cache episodes: " ++ e.message
  | .seriesCleared .. => "Cleared cached episodes"
  | .allCleared _ => "Cleared all cached episodes"
  | .clearFailed e => "Failed to clear episode cache: " ++ e.message

def fields : Event → List (String × FieldValue)
  | .authenticated | .keyMissing | .loginFailed _ | .clearFailed _ => []
  | .urlUnusable series _ | .cacheExpired series | .cacheReadFailed series _
  | .cacheWriteFailed series _ => [("series_id", .text series)]
  | .pageLimitReached series maxPages =>
    [("series_id", .text series), ("max_pages", .number maxPages.toNat)]
  | .tokenMissing series page | .pageFailed series page _ =>
    [("series_id", .text series), ("page", .number page)]
  | .tokenRejected page => [("page", .number page)]
  | .fetched series count | .cacheHit series count | .cacheWritten series count =>
    [("series_id", .text series), ("count", .number count)]
  | .seriesCleared series removed => [("series_id", .text series), ("removed", .number removed)]
  | .allCleared removed => [("removed", .number removed)]

end Event

end EpisodeGuide
