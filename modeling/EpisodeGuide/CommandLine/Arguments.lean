/-!
The arguments of the command line. Options may stand before the command and behind it; what is given
behind it wins. A request for help or for the version counts as soon as it is read, and so does a
mistake.
-/

namespace EpisodeGuide.CommandLine

inductive Command where
  | episodes (series : String) (refresh json : Bool)
  | clear (series : Option String)
  deriving DecidableEq, Repr

structure Invocation where
  verbose : Bool
  config : Option String
  command : Command
  deriving DecidableEq, Repr

/-- What ends the reading of arguments early. -/
inductive Stop where
  | help
  | version
  | misuse
  deriving DecidableEq, Repr

/-- Where an option stands: before the command, or behind it. -/
inductive Level where
  | top
  | episodes
  | clear
  deriving DecidableEq, Repr

structure Options where
  verbose : Bool
  refresh : Bool
  json : Bool
  config : Option String
  deriving DecidableEq, Repr

def Options.none : Options := ⟨false, false, false, .none⟩

inductive Shape where
  /-- Two hyphens alone: no options follow. -/
  | endOfOptions
  | long (name : List Char) (value : Option (List Char))
  | short (letters : List Char)
  | word
  deriving DecidableEq, Repr

def Shape.ofText (s : String) : Shape :=
  match s.toList with
  | ['-', '-'] => .endOfOptions
  | '-' :: '-' :: r =>
    match r.dropWhile (· != '=') with
    | _ :: value => .long (r.takeWhile (· != '=')) (some value)
    | [] => .long r .none
  | ['-'] => .word
  | '-' :: letters => .short letters
  | _ => .word

/-- Sets an option that has no value. No option comes twice. -/
def Options.setFlag (level : Level) (o : Options) (name : String) : Except Stop Options :=
  match level, name with
  | _, "help" => .error .help
  | .top, "version" => .error .version
  | _, "verbose" => if o.verbose then .error .misuse else .ok { o with verbose := true }
  | .episodes, "refresh" => if o.refresh then .error .misuse else .ok { o with refresh := true }
  | .episodes, "json" => if o.json then .error .misuse else .ok { o with json := true }
  | _, _ => .error .misuse

def optionOfLetter : Char → String
  | 'h' => "help"
  | 'V' => "version"
  | 'v' => "verbose"
  | 'r' => "refresh"
  | _ => ""

/-- Sets the path of the settings, which is not empty and comes once. -/
def Options.setConfig (o : Options) (path : String) : Except Stop Options :=
  if path.isEmpty || o.config.isSome then .error .misuse else .ok { o with config := some path }

def isValue (s : String) : Bool :=
  Shape.ofText s == .word

/-- Reads an option; also whether the argument behind it was its value. -/
def Options.take (level : Level) (o : Options) (shape : Shape) (next : Option String) :
    Except Stop (Options × Bool) :=
  match shape with
  | .long name value =>
    if name = "config".toList then
      match value, next.filter isValue with
      | some path, _ => (o.setConfig (String.ofList path)).map (·, false)
      | .none, some path => (o.setConfig path).map (·, true)
      | .none, .none => .error .misuse
    else if value.isSome then .error .misuse
    else (o.setFlag level (String.ofList name)).map (·, false)
  | .short letters =>
    (letters.foldlM (fun (o : Options) c => o.setFlag level (optionOfLetter c)) o).map (·, false)
  | .endOfOptions | .word => .error .misuse

def readBehind (level : Level) (o : Options) (words : List String) :
    List String → Except Stop (Options × List String)
  | [] => .ok (o, words)
  | arg :: rest =>
    match Shape.ofText arg with
    | .endOfOptions => .ok (o, words ++ rest)
    | .word =>
      if words.isEmpty then readBehind level o [arg] rest else .error .misuse
    | shape =>
      match o.take level shape rest.head?, rest with
      | .error stop, _ => .error stop
      | .ok (o, false), rest => readBehind level o words rest
      | .ok (o, true), _ :: rest => readBehind level o words rest
      | .ok (_, true), [] => .error .misuse

def Command.ofWords (level : Level) (o : Options) (words : List String) : Except Stop Command :=
  match level, words with
  | .episodes, [series] => .ok (.episodes series o.refresh o.json)
  | .clear, [] => .ok (.clear .none)
  | .clear, [series] => .ok (.clear (some series))
  | _, _ => .error .misuse

def readCommand (level : Level) (before : Options) (rest : List String) :
    Except Stop Invocation := do
  let (o, words) ← readBehind level .none [] rest
  let command ← Command.ofWords level o words
  return ⟨before.verbose || o.verbose, o.config.or before.config, command⟩

/-- What a request for help names: nothing, or one command. -/
def isHelpTopic (words : List String) : Bool :=
  match words with
  | [] => true
  | [word] => ["episodes", "clear", "help"].contains word
  | _ => false

def readFrom (o : Options) : List String → Except Stop Invocation
  | [] => .error .misuse
  | arg :: rest =>
    match Shape.ofText arg with
    | .endOfOptions => .error .misuse
    | .word =>
      match arg with
      | "episodes" => readCommand .episodes o rest
      | "clear" => readCommand .clear o rest
      | "help" => .error (if isHelpTopic rest then .help else .misuse)
      | _ => .error .misuse
    | shape =>
      match o.take .top shape rest.head?, rest with
      | .error stop, _ => .error stop
      | .ok (o, false), rest => readFrom o rest
      | .ok (o, true), _ :: rest => readFrom o rest
      | .ok (_, true), [] => .error .misuse

def read (arguments : List String) : Except Stop Invocation :=
  readFrom .none arguments

end EpisodeGuide.CommandLine
