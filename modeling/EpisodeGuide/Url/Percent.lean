import EpisodeGuide.Text.Digit

/-!
Percent coding: a byte is written as a percent sign and two hexadecimal digits. Each part of a URL
has its own set of characters that must be coded; characters outside ASCII always are, by their
UTF-8 bytes.
-/

namespace EpisodeGuide.Url

open EpisodeGuide.Text

def isControl (c : Char) : Bool :=
  c.toNat < 0x20 || c.toNat == 0x7f

def inFragmentSet (c : Char) : Bool :=
  isControl c || " \"<>`".contains c

def inPathSet (c : Char) : Bool :=
  inFragmentSet c || "#?\x7b\x7d".contains c

def inUserinfoSet (c : Char) : Bool :=
  inPathSet c || "/:;=@[\\]^|".contains c

/-- The set of a segment that is put into a path; in a special URL a backslash would separate
segments. -/
def inSegmentSet (special : Bool) (c : Char) : Bool :=
  inPathSet c || c == '/' || c == '%' || (special && c == '\\')

def inQuerySet (special : Bool) (c : Char) : Bool :=
  isControl c || " \"#<>".contains c || (special && c == '\'')

def percentByte (b : UInt8) : List Char :=
  ['%', upperHexDigit (b.toNat / 16), upperHexDigit (b.toNat % 16)]

def percentChar (set : Char → Bool) (c : Char) : List Char :=
  if c.toNat < 0x80 && !set c then [c]
  else (String.utf8EncodeChar c).flatMap percentByte

def percentEncode (set : Char → Bool) (s : List Char) : List Char :=
  s.flatMap (percentChar set)

/-- The bytes that a text stands for; a percent sign without two digits stands for itself. -/
def percentDecode : List Char → List UInt8
  | '%' :: a :: b :: r =>
    match hexDigit? a, hexDigit? b with
    | some x, some y => UInt8.ofNat (x * 16 + y) :: percentDecode r
    | _, _ => 0x25 :: percentDecode (a :: b :: r)
  | c :: r => String.utf8EncodeChar c ++ percentDecode r
  | [] => []

def decodeUtf8? (bytes : List UInt8) : Option (List Char) :=
  (ByteArray.mk bytes.toArray).utf8Decode?.map Array.toList

end EpisodeGuide.Url
