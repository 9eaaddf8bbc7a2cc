import EpisodeGuide.CommandLine.Run
import EpisodeGuide.Http.Wire

/-!
The program. It reads its arguments, the environment and the file of the settings, and leaves the
rest to the command line. It has no line to the provider and keeps its cache for the length of the
run, so no time passes for the cache.
-/

namespace EpisodeGuide.CommandLine

def usage : String :=
  "Look up and cache complete TV series episode lists\n\n" ++
  "Usage: tvdb-episodes [-v] [--config PATH] episodes ID [-r] [--json]\n" ++
  "       tvdb-episodes [-v] [--config PATH] clear [ID]\n"

/-- The file of the settings that arguments lead to. -/
def settingsPath (arguments : List String) (s : Surroundings) : Option String :=
  match read arguments with
  | .ok i => i.config.or s.configPath
  | .error _ => none

def diskWith (workingDirectory : String) (path : Option String) (content : Option ByteArray) :
    Disk :=
  let start : Disk := .ofWorkingDirectory (Files.normalPlace [] workingDirectory)
  match path, content with
  | some path, some bytes =>
    let made := (Files.parent? path).bind fun parent => (start.createDirectories parent).toOption
    let disk := made.getD start
    match disk.locate path with
    | .ok place => disk.put place (.file (.bytes bytes.toList))
    | .error _ => disk
  | _, _ => start

def readBytes (path : String) : IO (Option ByteArray) := do
  try return some (← IO.FS.readBinFile path)
  catch _ => return none

def runProgram (arguments : List String) : IO UInt32 := do
  let surroundings : Surroundings :=
    ⟨← IO.getEnv "HOME", none, ← IO.getEnv "XDG_CONFIG_HOME", ← IO.getEnv "XDG_CACHE_HOME"⟩
  let path := settingsPath arguments surroundings
  let content ← match path with
    | some path => readBytes path
    | none => pure none
  let world : World Http.Peer := {
    surroundings := surroundings
    environmentKey := ← IO.getEnv keyVariable
    clock := 0
    disk := diskWith (← IO.currentDir).toString path content
    link := ⟨"", false, [], []⟩ }
  let (report, _) := run Http.Peer.send arguments world
  if let .error .help := read arguments then IO.print usage
  IO.print report.output
  if let some e := report.error then IO.eprintln ("Error: " ++ e)
  return UInt32.ofNat report.exitCode

end EpisodeGuide.CommandLine

def main (arguments : List String) : IO UInt32 :=
  EpisodeGuide.CommandLine.runProgram arguments
