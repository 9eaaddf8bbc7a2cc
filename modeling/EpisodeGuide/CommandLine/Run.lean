import EpisodeGuide.Catalog.Open
import EpisodeGuide.CommandLine.Arguments
import EpisodeGuide.Episode.Record

/-!
A run of the command line: arguments are read, settings are loaded, the catalog is set up, and the
command is done. The outcome is an exit code, what is printed, and at most one error.
-/

namespace EpisodeGuide.CommandLine

structure Report where
  exitCode : Nat
  output : String
  error : Option String
  deriving DecidableEq, Repr

/-- Everything that a run depends on, apart from its arguments. -/
structure World (σ : Type) where
  surroundings : Surroundings
  environmentKey : Option String
  clock : Int
  disk : Disk
  link : σ

def versionText : String := "tvdb_episodes 0.1.0\n"

def Report.success (output : String) : Report := ⟨0, output, none⟩

def Report.failure (exitCode : Nat) (error : String) : Report := ⟨exitCode, "", some error⟩

/-- The report of a run that ends with its arguments. The text of the help is left out of it: the
program prints its own. -/
def Stop.report : Stop → Report
  | .help => .success ""
  | .version => .success versionText
  | .misuse => ⟨2, "", none⟩

def twoDigits (n : Nat) : String :=
  if n < 10 then "0" ++ toString n else toString n

def episodeLine (e : Episode) : String :=
  let date := if e.airDate.isEmpty then "unaired" else e.airDate
  "S" ++ twoDigits e.season.toNat ++ "E" ++ twoDigits e.number.toNat ++ "  " ++ e.name ++
    "  (" ++ date ++ ")\n"

def listing (episodes : List Episode) : String :=
  if episodes.isEmpty then "No episodes found.\n"
  else
    String.join (episodes.map episodeLine) ++ "\n" ++ toString episodes.length ++ " episode(s)\n"

def jsonListing (episodes : List Episode) : String :=
  (Episode.listValue episodes).prettyText ++ "\n"

/-- The series to clear: white space around it does not count, and nothing but white space stands
for all. -/
def clearTarget (series : Option String) : Option String :=
  (Text.nonBlank? series).map Text.trim

def clearedMessage : Option String → String
  | some series => "Cleared cached episodes for series " ++ series ++ "\n"
  | none => "Cleared all cached episodes\n"

section

variable {σ : Type}

def loadConfig (i : Invocation) (w : World σ) : Except ConfigError Config :=
  match i.config with
  | some path => Config.loadFrom path w.environmentKey w.disk
  | none => Config.load w.surroundings w.environmentKey w.disk

def perform (send : Http.Transport σ) (clock : Int) (l : Library (Session σ)) :
    Command → Report × Library (Session σ)
  | .episodes series refresh json =>
    match l.run (Catalog.get (Session.source send clock) clock series refresh) with
    | (none, l) => (.failure 2 "series ID must not be empty", l)
    | (some episodes, l) => (.success (if json then jsonListing episodes else listing episodes), l)
  | .clear series =>
    let target := clearTarget series
    match l.run (Catalog.clear target) with
    | (true, l) => (.success (clearedMessage target), l)
    | (false, l) => (.failure 1 "failed to clear the episode cache", l)

/-- Runs an invocation; also the disk and the link that it leaves. -/
def runInvocation (send : Http.Transport σ) (i : Invocation) (w : World σ) : Report × Disk × σ :=
  match loadConfig i w with
  | .error e => (.failure 1 e.message, w.disk, w.link)
  | .ok config =>
    match Library.ofConfig config w.surroundings w.disk w.link with
    | (.error e, disk) => (.failure 1 e.message, disk, w.link)
    | (.ok library, _) =>
      let (report, library) := perform send w.clock library i.command
      (report, library.disk, library.source.link)

def run (send : Http.Transport σ) (arguments : List String) (w : World σ) : Report × Disk × σ :=
  match read arguments with
  | .error stop => (stop.report, w.disk, w.link)
  | .ok invocation => runInvocation send invocation w

end

end EpisodeGuide.CommandLine
