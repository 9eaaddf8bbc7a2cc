import EpisodeGuide.Client.Session
import EpisodeGuide.Toml.Document

/-!
Settings. Every setting may be left out of the file and then has its default; settings with other
names are passed over. A blank key never replaces another.
-/

namespace EpisodeGuide

/-- Seconds after which a request is given up, unless set otherwise. -/
def defaultTimeout : UInt64 := 30

structure Config where
  apiKey : Option String
  baseUrl : String
  databasePath : Option String
  maxPages : UInt32
  timeoutSeconds : UInt64
  deriving DecidableEq, Repr

namespace Config

open Toml

def default : Config where
  apiKey := none
  baseUrl := defaultBaseUrl
  databasePath := none
  maxPages := defaultMaxPages
  timeoutSeconds := defaultTimeout

/-- A setting that is left out, or read. -/
def setting? {α : Type} (read : Node → Option α) (key : String) (ms : Members) :
    Option (Option α) :=
  match ms.get? key with
  | none => some none
  | some node => (read node).map some

def readText : Node → Option String
  | .text s => some s
  | _ => none

def readInteger : Node → Option Int
  | .integer i => some i
  | _ => none

def ofMembers? (ms : Members) : Option Config := do
  let apiKey ← setting? readText "api_key" ms
  let baseUrl ← setting? readText "base_url" ms
  let databasePath ← setting? readText "database_path" ms
  let maxPages ← setting? (fun n => (readInteger n).bind Word.unsigned32?) "max_pages" ms
  let timeout ← setting? (fun n => (readInteger n).bind Word.unsigned64?) "request_timeout_secs" ms
  return {
    apiKey := apiKey
    baseUrl := baseUrl.getD default.baseUrl
    databasePath := databasePath
    maxPages := maxPages.getD default.maxPages
    timeoutSeconds := timeout.getD default.timeoutSeconds }

def ofText? (s : String) : Option Config :=
  (membersOfText? s).bind ofMembers?

/-- Replaces the key by another that is not blank. -/
def overrideApiKey (key : Option String) (c : Config) : Config :=
  match Text.nonBlank? key with
  | some key => { c with apiKey := some key }
  | none => c

/-- The key without white space around it, unless it is blank. -/
def usableKey (c : Config) : Option String :=
  (Text.nonBlank? c.apiKey).map Text.trim

end Config

end EpisodeGuide
