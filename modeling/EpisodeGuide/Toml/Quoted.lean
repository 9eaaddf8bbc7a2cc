import EpisodeGuide.Text.Digit

/-!
Quoted texts of TOML. Basic texts know escapes, literal texts do not; either may go over several
lines when its quotes come in threes. Line breaks are single line feeds by the time they are read.
-/

namespace EpisodeGuide.Toml

open Text

/-- The characters that stand for themselves: tabs, printable ASCII and all beyond ASCII. -/
def isPlain (c : Char) : Bool :=
  c == '\t' || (0x20 ≤ c.toNat && c.toNat != 0x7f)

def isSpace (c : Char) : Bool :=
  c == ' ' || c == '\t'

def shortEscape? : Char → Option Char
  | 'b' => some '\x08'
  | 't' => some '\t'
  | 'n' => some '\n'
  | 'f' => some '\x0c'
  | 'r' => some '\r'
  | '"' => some '"'
  | '\\' => some '\\'
  | _ => none

def character? (n : Nat) : Option Char :=
  if n.isValidChar then some (Char.ofNat n) else none

/-- How far the reading of an escape has come. -/
inductive Escape where
  | outside
  | begun
  /-- Within a number that has `left + 1` more digits. -/
  | code (left value : Nat)
  /-- Spaces behind a backslash, which a line break must follow. -/
  | lineEnd
  /-- Spaces and line breaks that a backslash takes away. -/
  | fold

def consText (c : Char) (read : Option (List Char × List Char)) : Option (List Char × List Char) :=
  read.map fun (text, rest) => (c :: text, rest)

def takeBasic : Escape → List Char → Option (List Char × List Char)
  | .outside, '"' :: r => some ([], r)
  | .outside, '\\' :: r => takeBasic .begun r
  | .outside, c :: r => if isPlain c then consText c (takeBasic .outside r) else none
  | .begun, 'u' :: r => takeBasic (.code 3 0) r
  | .begun, 'U' :: r => takeBasic (.code 7 0) r
  | .begun, c :: r =>
    match shortEscape? c with
    | some e => consText e (takeBasic .outside r)
    | none => none
  | .code 0 n, c :: r =>
    match (hexDigit? c).bind (fun d => character? (n * 16 + d)) with
    | some e => consText e (takeBasic .outside r)
    | none => none
  | .code (left + 1) n, c :: r =>
    match hexDigit? c with
    | some d => takeBasic (.code left (n * 16 + d)) r
    | none => none
  | _, _ => none

/-- The quotes, at most two, that stand directly before the closing ones, and what follows the
text. -/
def takeClosing (quote : Char) : List Char → List Char × List Char
  | a :: b :: r =>
    if a == quote then if b == quote then ([quote, quote], r) else ([quote], b :: r)
    else ([], a :: b :: r)
  | [a] => if a == quote then ([quote], []) else ([], [a])
  | [] => ([], [])

def takeBasicLines : Escape → List Char → Option (List Char × List Char)
  | .outside, '"' :: '"' :: '"' :: r => some (takeClosing '"' r)
  | .outside, '\\' :: r => takeBasicLines .begun r
  | .outside, c :: r =>
    if isPlain c || c == '\n' then consText c (takeBasicLines .outside r) else none
  | .begun, 'u' :: r => takeBasicLines (.code 3 0) r
  | .begun, 'U' :: r => takeBasicLines (.code 7 0) r
  | .begun, c :: r =>
    if isSpace c then takeBasicLines .lineEnd r
    else if c == '\n' then takeBasicLines .fold r
    else
      match shortEscape? c with
      | some e => consText e (takeBasicLines .outside r)
      | none => none
  | .lineEnd, c :: r =>
    if isSpace c then takeBasicLines .lineEnd r
    else if c == '\n' then takeBasicLines .fold r
    else none
  | .fold, '"' :: '"' :: '"' :: r => some (takeClosing '"' r)
  | .fold, '\\' :: r => takeBasicLines .begun r
  | .fold, c :: r =>
    if isSpace c || c == '\n' then takeBasicLines .fold r
    else if isPlain c then consText c (takeBasicLines .outside r)
    else none
  | .code 0 n, c :: r =>
    match (hexDigit? c).bind (fun d => character? (n * 16 + d)) with
    | some e => consText e (takeBasicLines .outside r)
    | none => none
  | .code (left + 1) n, c :: r =>
    match hexDigit? c with
    | some d => takeBasicLines (.code left (n * 16 + d)) r
    | none => none
  | _, [] => none

def takeLiteral : List Char → Option (List Char × List Char)
  | [] => none
  | c :: r =>
    if c == '\'' then some ([], r)
    else if isPlain c then consText c (takeLiteral r)
    else none

def takeLiteralLines : List Char → Option (List Char × List Char)
  | '\'' :: '\'' :: '\'' :: r => some (takeClosing '\'' r)
  | c :: r => if isPlain c || c == '\n' then consText c (takeLiteralLines r) else none
  | [] => none

/-- A line break directly behind the opening quotes is no part of the text. -/
def dropFirstBreak : List Char → List Char
  | '\n' :: r => r
  | s => s

def takeQuoted : List Char → Option (List Char × List Char)
  | '"' :: r => takeBasic .outside r
  | '\'' :: r => takeLiteral r
  | _ => none

def takeText : List Char → Option (List Char × List Char)
  | '"' :: '"' :: '"' :: r => takeBasicLines .outside (dropFirstBreak r)
  | '\'' :: '\'' :: '\'' :: r => takeLiteralLines (dropFirstBreak r)
  | s => takeQuoted s

end EpisodeGuide.Toml
