import EpisodeGuide.Json.Value

/-!
Texts of JSON values: the compact text has no spaces, the pretty text puts each item and member on a
line of its own, two spaces further in than what holds it. Members are written in the order held.
-/

namespace EpisodeGuide.Json

open EpisodeGuide.Text

/-- One character of a quoted text: quotes, backslashes and control characters are escaped. -/
def escapeChar (c : Char) : List Char :=
  if c = '"' then ['\\', '"']
  else if c = '\\' then ['\\', '\\']
  else if c = '\x08' then ['\\', 'b']
  else if c = '\x0c' then ['\\', 'f']
  else if c = '\n' then ['\\', 'n']
  else if c = '\r' then ['\\', 'r']
  else if c = '\t' then ['\\', 't']
  else if c.toNat < 0x20 then
    ['\\', 'u', '0', '0', lowerHexDigit (c.toNat / 16), lowerHexDigit (c.toNat % 16)]
  else [c]

def quote (s : List Char) : List Char :=
  '"' :: s.flatMap escapeChar ++ ['"']

def Number.print : Number → List Char
  | .integer i => if i < 0 then '-' :: Nat.toDigits 10 i.natAbs else Nat.toDigits 10 i.natAbs
  | .real x => (x.shortestText Decimal.exchange).toList

namespace Value

mutual

def compact : Value → List Char
  | .null => ['n', 'u', 'l', 'l']
  | .bool true => ['t', 'r', 'u', 'e']
  | .bool false => ['f', 'a', 'l', 's', 'e']
  | .number n => n.print
  | .text s => quote s.toList
  | .array [] => ['[', ']']
  | .array (v :: vs) => '[' :: compact v ++ compactItems vs
  | .object [] => ['\x7b', '\x7d']
  | .object ((k, v) :: ms) => '\x7b' :: quote k.toList ++ ':' :: compact v ++ compactMembers ms

/-- The items after the first, and the closing bracket. -/
def compactItems : List Value → List Char
  | [] => [']']
  | v :: vs => ',' :: compact v ++ compactItems vs

def compactMembers : List (String × Value) → List Char
  | [] => ['\x7d']
  | (k, v) :: ms => ',' :: quote k.toList ++ ':' :: compact v ++ compactMembers ms

end

def newline (depth : Nat) : List Char :=
  '\n' :: List.replicate (2 * depth) ' '

mutual

def pretty (depth : Nat) : Value → List Char
  | .array [] => ['[', ']']
  | .array (v :: vs) =>
    '[' :: newline (depth + 1) ++ pretty (depth + 1) v ++ prettyItems depth vs
  | .object [] => ['\x7b', '\x7d']
  | .object ((k, v) :: ms) =>
    '\x7b' :: newline (depth + 1) ++ quote k.toList ++ ':' :: ' ' :: pretty (depth + 1) v ++
      prettyMembers depth ms
  | .null => compact .null
  | .bool b => compact (.bool b)
  | .number n => compact (.number n)
  | .text s => compact (.text s)

def prettyItems (depth : Nat) : List Value → List Char
  | [] => newline depth ++ [']']
  | v :: vs => ',' :: newline (depth + 1) ++ pretty (depth + 1) v ++ prettyItems depth vs

def prettyMembers (depth : Nat) : List (String × Value) → List Char
  | [] => newline depth ++ ['\x7d']
  | (k, v) :: ms =>
    ',' :: newline (depth + 1) ++ quote k.toList ++ ':' :: ' ' :: pretty (depth + 1) v ++
      prettyMembers depth ms

end

def compactText (v : Value) : String :=
  String.ofList v.compact

def prettyText (v : Value) : String :=
  String.ofList (v.pretty 0)

end Value

end EpisodeGuide.Json
