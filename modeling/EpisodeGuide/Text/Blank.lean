/-!
White space in the sense of the Unicode property White_Space, and texts that consist of nothing
else. A trimmed text starts and ends with a character that is not white space, or is empty.
-/

namespace EpisodeGuide.Text

def isBlankChar (c : Char) : Bool :=
  let n := c.toNat
  (9 ≤ n && n ≤ 13) || n == 32 || n == 0x85 || n == 0xA0 || n == 0x1680 ||
    (0x2000 ≤ n && n ≤ 0x200A) || n == 0x2028 || n == 0x2029 || n == 0x202F ||
    n == 0x205F || n == 0x3000

def trimChars (s : List Char) : List Char :=
  ((s.dropWhile isBlankChar).reverse.dropWhile isBlankChar).reverse

def trim (s : String) : String :=
  String.ofList (trimChars s.toList)

/-- A text is blank when it holds white space only; the empty text is blank. -/
def isBlank (s : String) : Bool :=
  s.toList.all isBlankChar

def nonBlank? (s : Option String) : Option String :=
  s.filter (fun t => !isBlank t)

def dropTrailing (c : Char) (s : String) : String :=
  String.ofList (s.toList.reverse.dropWhile (· == c)).reverse

end EpisodeGuide.Text
