import EpisodeGuide.Json.Lexeme

/-!
JSON documents as trees that keep what is written: members stay in order with their repetitions, and
numbers and quoted texts stay uninterpreted. Reading keeps the open arrays and objects on a stack,
so documents of any depth are read.
-/

namespace EpisodeGuide.Json

inductive Document where
  | null
  | bool (b : Bool)
  | number (n : Numeral)
  | text (pieces : List Piece)
  | array (items : List Document)
  | object (members : List (List Piece × Document))

/-- An array or object that is open: what it holds so far, the latest first, and for an object the
key whose value comes next. -/
inductive Frame where
  | array (items : List Document)
  | object (members : List (List Piece × Document)) (key : List Piece)

mutual

def readValue (stack : List Frame) : List Lexeme → Option Document
  | .null :: ts => readRest stack .null ts
  | .bool b :: ts => readRest stack (.bool b) ts
  | .number n :: ts => readRest stack (.number n) ts
  | .text s :: ts => readRest stack (.text s) ts
  | .openBracket :: .closeBracket :: ts => readRest stack (.array []) ts
  | .openBracket :: ts => readValue (.array [] :: stack) ts
  | .openBrace :: .closeBrace :: ts => readRest stack (.object []) ts
  | .openBrace :: .text k :: .colon :: ts => readValue (.object [] k :: stack) ts
  | _ => none

/-- Goes on after the value `d`: ends the document, or puts `d` into the innermost open frame. -/
def readRest : List Frame → Document → List Lexeme → Option Document
  | [], d, [] => some d
  | .array items :: stack, d, .comma :: ts => readValue (.array (d :: items) :: stack) ts
  | .array items :: stack, d, .closeBracket :: ts => readRest stack (.array (d :: items).reverse) ts
  | .object members k :: stack, d, .comma :: .text k' :: .colon :: ts =>
    readValue (.object ((k, d) :: members) k' :: stack) ts
  | .object members k :: stack, d, .closeBrace :: ts =>
    readRest stack (.object ((k, d) :: members).reverse) ts
  | _, _, _ => none

end

def Document.ofChars? (s : List Char) : Option Document :=
  (lexemes? s).bind (readValue [])

def Document.ofText? (s : String) : Option Document :=
  Document.ofChars? s.toList

end EpisodeGuide.Json
