import EpisodeGuide.Url.Basic

/-!
Form coding of key and value pairs in a query: a plus sign for a space, ampersands between pairs and
an equals sign inside each. Decoding takes the pairs out of a query again.
-/

namespace EpisodeGuide.Url

open EpisodeGuide.Text

def isFormPlain (c : Char) : Bool :=
  c.isAlphanum || c == '*' || c == '-' || c == '.' || c == '_'

def formChar (c : Char) : List Char :=
  if c == ' ' then ['+'] else percentChar (fun c => !isFormPlain c) c

def formEncode (s : List Char) : List Char :=
  s.flatMap formChar

def formPair (pair : List Char × List Char) : List Char :=
  formEncode pair.1 ++ '=' :: formEncode pair.2

def formPairs (pairs : List (List Char × List Char)) : List Char :=
  ['&'].intercalate (pairs.map formPair)

def formDecode (s : List Char) : List UInt8 :=
  percentDecode (s.map (fun c => if c == '+' then ' ' else c))

def formSplit (s : List Char) : List UInt8 × List UInt8 :=
  (formDecode (s.takeWhile (· != '=')), formDecode ((s.dropWhile (· != '=')).drop 1))

/-- The pairs of a query; empty stretches between ampersands are none. -/
def formDecodePairs (query : List Char) : List (List UInt8 × List UInt8) :=
  ((query.splitOn '&').filter (fun s => !s.isEmpty)).map formSplit

def appendPairs (query : Option (List Char)) (pairs : List (List Char × List Char)) : List Char :=
  match query with
  | none | some [] => formPairs pairs
  | some q => q ++ '&' :: formPairs pairs

/-- The URL with further pairs in its query; no pairs leave it as it is. -/
def withPairs (u : Url) (pairs : List (List Char × List Char)) : Url :=
  if pairs.isEmpty then u else { u with query := some (appendPairs u.query pairs) }

end EpisodeGuide.Url
