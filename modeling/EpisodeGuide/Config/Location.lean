import EpisodeGuide.Files.Path

/-!
Where the settings and the cache of a user stand by default. A directory that is named for the
purpose counts only when it is absolute; otherwise the directory is found below the home directory.
-/

namespace EpisodeGuide

/-- What the surroundings of a run say about directories. -/
structure Surroundings where
  home : Option String
  /-- The home directory of the user's account. -/
  accountHome : Option String
  configHome : Option String
  cacheHome : Option String
  deriving DecidableEq, Repr

namespace Surroundings

def application : String := "tvdb-episodes"

/-- The home directory; an empty name counts as none. -/
def homeDirectory (s : Surroundings) : Option String :=
  match s.home.filter (fun h => !h.isEmpty) with
  | some home => some home
  | none => s.accountHome

def directory (named : Option String) (belowHome : String) (s : Surroundings) : Option String :=
  s.homeDirectory.map fun home =>
    let base :=
      match named.filter Files.isAbsolute with
      | some directory => directory
      | none => Files.join home belowHome
    Files.join base application

def configPath (s : Surroundings) : Option String :=
  (s.directory s.configHome ".config").map (Files.join · "config.toml")

def cachePath (s : Surroundings) : Option String :=
  (s.directory s.cacheHome ".cache").map (Files.join · "episodes.sqlite")

end Surroundings

end EpisodeGuide
