import EpisodeGuide.Url.Ipv4
import EpisodeGuide.Url.Ipv6
import EpisodeGuide.Url.Path

/-!
URLs in their normal form, part by part, and the text of a URL. A hierarchical URL has a path of
segments and may have an authority; any other has a plain text after its scheme.
-/

namespace EpisodeGuide

namespace Url

inductive Host where
  | domain (name : List Char)
  | ipv4 (address : Nat)
  | ipv6 (pieces : List Nat)
  deriving DecidableEq, Repr

/-- Who answers for a URL. The user name and password are in coded form, empty when absent. -/
structure Authority where
  username : List Char
  password : List Char
  host : Host
  port : Option Nat
  deriving DecidableEq, Repr

inductive Location where
  | plain (text : List Char)
  | hierarchical (authority : Option Authority) (path : List Segment)
  deriving DecidableEq, Repr

end Url

structure Url where
  scheme : List Char
  location : Url.Location
  query : Option (List Char)
  fragment : Option (List Char)
  deriving DecidableEq, Repr

namespace Url

def kind (u : Url) : Kind :=
  Kind.ofScheme u.scheme

def Host.print : Host → List Char
  | .domain name => name
  | .ipv4 address => Ipv4.print address
  | .ipv6 pieces => '[' :: Ipv6.print pieces ++ [']']

def Host.isEmpty : Host → Bool
  | .domain name => name.isEmpty
  | _ => false

def Authority.userinfo (a : Authority) : List Char :=
  if a.username.isEmpty && a.password.isEmpty then []
  else a.username ++ (if a.password.isEmpty then [] else ':' :: a.password) ++ ['@']

def Authority.print (a : Authority) : List Char :=
  a.userinfo ++ a.host.print ++
    match a.port with
    | some p => ':' :: Nat.toDigits 10 p
    | none => []

/-- The text between scheme and query. A path that would read as an authority is held apart by a
dot. -/
def Location.print : Location → List Char
  | .plain text => text
  | .hierarchical (some a) path => '/' :: '/' :: a.print ++ Path.print path
  | .hierarchical none path =>
    match path with
    | [] :: _ :: _ => '/' :: '.' :: Path.print path
    | _ => Path.print path

def printOptional (mark : Char) : Option (List Char) → List Char
  | some s => mark :: s
  | none => []

def print (u : Url) : List Char :=
  u.scheme ++ ':' :: u.location.print ++ printOptional '?' u.query ++ printOptional '#' u.fragment

def text (u : Url) : String :=
  String.ofList u.print

def authority? (u : Url) : Option Authority :=
  match u.location with
  | .hierarchical a _ => a
  | .plain _ => none

def hasHost (u : Url) : Bool :=
  u.authority?.any (fun a => !a.host.isEmpty)

/-- The path with further segments behind it, or nothing for a URL without a hierarchy. An empty
last segment of the path gives way to the first new one. -/
def extend? (u : Url) (texts : List (List Char)) : Option Url :=
  match u.location with
  | .plain _ => none
  | .hierarchical a path =>
    some { u with
      location := .hierarchical a (texts.foldl (Path.push u.kind) (Path.dropEmptyLast path)) }

def withoutUserinfo (u : Url) : Url :=
  match u.location with
  | .hierarchical (some a) path =>
    { u with location := .hierarchical (some { a with username := [], password := [] }) path }
  | _ => u

end Url

end EpisodeGuide
