import EpisodeGuide.Url.Basic
import EpisodeGuide.Url.Domain

/-!
Reading of absolute URLs. Reading brings every part into its normal form: schemes and domains in
lower case, default ports left out, dots resolved, and what must be coded coded.
-/

namespace EpisodeGuide

inductive UrlError where
  | relativeWithoutBase
  | emptyHost
  | invalidPort
  | invalidIpv4
  | invalidIpv6
  | invalidDomain
  | invalidDomainCharacter
  deriving DecidableEq, Repr

def UrlError.message : UrlError → String
  | .relativeWithoutBase => "relative URL without a base"
  | .emptyHost => "empty host"
  | .invalidPort => "invalid port number"
  | .invalidIpv4 => "invalid IPv4 address"
  | .invalidIpv6 => "invalid IPv6 address"
  | .invalidDomain => "invalid international domain name"
  | .invalidDomainCharacter => "invalid domain character"

namespace Url

def isPadding (c : Char) : Bool :=
  c.toNat ≤ 0x20

/-- The text of a URL as it is read: without padding, tabs and line breaks. -/
def normalizeInput (s : List Char) : List Char :=
  (((s.dropWhile isPadding).reverse.dropWhile isPadding).reverse).filter
    (fun c => !Path.isIgnored c)

def isSchemeChar (c : Char) : Bool :=
  c.isAlphanum || c == '+' || c == '-' || c == '.'

/-- Splits off the scheme, which starts with a letter and ends before the first colon. -/
def splitScheme? (s : List Char) : Option (List Char × List Char) :=
  match s, s.dropWhile isSchemeChar with
  | c :: _, ':' :: rest =>
    if c.isAlpha then some ((s.takeWhile isSchemeChar).map Char.toLower, rest) else none
  | _, _ => none

def endsAuthority (special : Bool) (c : Char) : Bool :=
  c == '/' || c == '?' || c == '#' || (special && c == '\\')

def splitUserinfo (s : List Char) : Option (List Char) × List Char :=
  let tail := (s.reverse.takeWhile (· != '@')).reverse
  if tail.length = s.length then (none, s)
  else (some (s.take (s.length - tail.length - 1)), tail)

/-- The coded user name and password; the first colon separates them. -/
def readUserinfo (s : List Char) : List Char × List Char :=
  let name := s.takeWhile (· != ':')
  let rest := (s.dropWhile (· != ':')).drop 1
  (percentEncode inUserinfoSet name, percentEncode inUserinfoSet rest)

/-- Splits a host from what follows it: the first colon that stands outside brackets. -/
def splitHost (inBrackets : Bool) : List Char → List Char × List Char
  | [] => ([], [])
  | c :: r =>
    if c == ':' && !inBrackets then ([], c :: r)
    else
      let inside := if c == '[' then true else if c == ']' then false else inBrackets
      (splitHost inside r).map (c :: ·) id

def readBracketed (s : List Char) : Except UrlError Host :=
  if s.getLast? = some ']' then
    match Ipv6.ofText? s.dropLast with
    | some pieces => .ok (.ipv6 pieces)
    | none => .error .invalidIpv6
  else .error .invalidIpv6

def readHost (s : List Char) : Except UrlError Host :=
  match s with
  | '[' :: r => readBracketed r
  | _ =>
    match (decodeUtf8? (percentDecode s)).bind Domain.toAscii? with
    | none => .error .invalidDomain
    | some [] => .error .emptyHost
    | some name =>
      if Ipv4.endsInNumber name then
        match Ipv4.ofHost? name with
        | some address => .ok (.ipv4 address)
        | none => .error .invalidIpv4
      else .ok (.domain name)

def isForbiddenInHost (c : Char) : Bool :=
  c == '\x00' || Path.isIgnored c || " #/:<>?@[\\]^|".contains c

/-- The host of a URL that is not special; it may be empty and is otherwise taken as it is. -/
def readPlainHost (s : List Char) : Except UrlError Host :=
  match s with
  | '[' :: r => readBracketed r
  | _ =>
    if s.any isForbiddenInHost then .error .invalidDomainCharacter
    else .ok (.domain (percentEncode isControl s))

/-- The port after a colon, and what is left behind a backslash. The default port counts as none. -/
def readPort (defaultPort : Option Nat) (s : List Char) :
    Except UrlError (Option Nat × List Char) :=
  let (digits, rest) := Text.takeDigits s
  match rest with
  | c :: _ => if c == '\\' then finish digits rest else .error .invalidPort
  | [] => finish digits rest
where
  finish (digits : List Nat) (rest : List Char) : Except UrlError (Option Nat × List Char) :=
    let port := Text.ofDigits 10 digits
    if port ≥ UInt16.size then .error .invalidPort
    else if digits.isEmpty || some port == defaultPort then .ok (none, rest)
    else .ok (some port, rest)

/-- The authority that a text spells, and what is left of the text. `followed` says that a path,
query or fragment comes behind. -/
def readAuthority (kind : Kind) (followed : Bool) (s : List Char) :
    Except UrlError (Authority × List Char) := do
  let (userinfo, rest) := splitUserinfo s
  if userinfo = some [] ∧ rest = [] ∧ followed then throw .emptyHost
  let (username, password) := readUserinfo (userinfo.getD [])
  let (hostText, portText) := splitHost false rest
  let host ←
    if kind.isSpecial then
      if hostText = [] then throw .emptyHost else readHost hostText
    else readPlainHost hostText
  if host.isEmpty ∧ portText ≠ [] then throw .emptyHost
  let defaultPort := match kind with
    | .special port => port
    | _ => none
  let (port, left) ←
    match portText with
    | _ :: digits => readPort defaultPort digits
    | [] => pure (none, [])
  if host.isEmpty ∧ (username ≠ [] ∨ password ≠ []) then throw .emptyHost
  return (⟨username, password, host, port⟩, left)

/-- The path behind an authority. Special URLs always have one. -/
def readPath (kind : Kind) (s : List Char) : List Segment :=
  match s with
  | [] => if kind.isSpecial then [[]] else []
  | c :: r => Path.tidy kind (Path.ofText kind (if Path.isSeparator kind c then r else s))

def splitTail (s : List Char) : List Char × Option (List Char) × Option (List Char) :=
  let beforeFragment := s.takeWhile (· != '#')
  let fragment := match s.dropWhile (· != '#') with
    | _ :: r => some r
    | [] => none
  let query := match beforeFragment.dropWhile (· != '?') with
    | _ :: r => some r
    | [] => none
  (beforeFragment.takeWhile (· != '?'), query, fragment)

def readNetwork (kind : Kind) (followed : Bool) (s : List Char) : Except UrlError Location := do
  let authorityText := s.takeWhile (fun c => !endsAuthority kind.isSpecial c)
  let pathText := s.dropWhile (fun c => !endsAuthority kind.isSpecial c)
  let (authority, left) ← readAuthority kind (followed || !pathText.isEmpty) authorityText
  return .hierarchical (some authority) (readPath kind (left ++ pathText))

/-- An authority without a host, as files have it. -/
def noHost : Authority := ⟨[], [], .domain [], none⟩

def localFile (text : List Char) : Location :=
  .hierarchical (some noHost) (Path.tidy .file (Path.ofText .file text))

/-- A file of a host. A drive at the start of the path drops the host. -/
def hostedFile (host : Host) (pathText : List Char) : Location :=
  match (Path.ofText .file (pathText.drop 1)).head? with
  | some first => if isDriveLetter first then localFile (pathText.drop 1) else keep
  | none => keep
where
  keep : Location := .hierarchical (some { noHost with host := host }) (readPath .file pathText)

/-- The location of a file, from the text behind the scheme up to the query. A drive in the place of
the host belongs to the path, and the host may be left out. -/
def readFile (s : List Char) : Except UrlError Location :=
  let isSlash (c : Char) : Bool := c == '/' || c == '\\'
  match s with
  | a :: b :: rest =>
    if isSlash a && isSlash b then
      let hostText := rest.takeWhile (fun c => !isSlash c)
      let pathText := rest.dropWhile (fun c => !isSlash c)
      if isDriveLetter hostText then .ok (localFile rest)
      else if hostText = [] then .ok (localFile pathText)
      else
        (readHost hostText).map fun host =>
          if host = .domain "localhost".toList then localFile pathText
          else hostedFile host pathText
    else if isSlash a then .ok (localFile (b :: rest))
    else .ok (localFile s)
  | [a] => .ok (localFile (if isSlash a then [] else s))
  | [] => .ok (localFile [])

def readOther (followed : Bool) (s : List Char) : Except UrlError Location :=
  match s with
  | '/' :: '/' :: rest => readNetwork .other followed rest
  | '/' :: rest => .ok (.hierarchical none (Path.ofText .other rest))
  | _ => .ok (.plain (percentEncode isControl s))

def ofChars (s : List Char) : Except UrlError Url :=
  match splitScheme? (normalizeInput s) with
  | none => .error .relativeWithoutBase
  | some (scheme, rest) => do
    let kind := Kind.ofScheme scheme
    let (body, query, fragment) := splitTail rest
    let followed := query.isSome || fragment.isSome
    let location ←
      match kind with
      | .file => readFile body
      | .special _ => readNetwork kind followed (body.dropWhile (fun c => c == '/' || c == '\\'))
      | .other => readOther followed body
    return {
      scheme := scheme
      location := location
      query := query.map (percentEncode (inQuerySet kind.isSpecial))
      fragment := fragment.map (percentEncode inFragmentSet) }

def ofText (s : String) : Except UrlError Url :=
  ofChars s.toList

end Url

end EpisodeGuide
