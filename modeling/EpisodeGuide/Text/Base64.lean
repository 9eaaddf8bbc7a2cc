/-!
Base 64 coding of bytes: every three bytes become four characters of a fixed alphabet, and equals
signs fill up the last group.
-/

namespace EpisodeGuide.Text

def base64Char (n : Nat) : Char :=
  if n < 26 then Char.ofNat (n + 'A'.toNat)
  else if n < 52 then Char.ofNat (n - 26 + 'a'.toNat)
  else if n < 62 then Char.ofNat (n - 52 + '0'.toNat)
  else if n = 62 then '+'
  else '/'

def base64 : List UInt8 → List Char
  | a :: b :: c :: r =>
    let n := a.toNat * 65536 + b.toNat * 256 + c.toNat
    [n / 262144, n / 4096 % 64, n / 64 % 64, n % 64].map base64Char ++ base64 r
  | [a, b] =>
    let n := a.toNat * 65536 + b.toNat * 256
    [n / 262144, n / 4096 % 64, n / 64 % 64].map base64Char ++ ['=']
  | [a] => [a.toNat / 4, a.toNat % 4 * 16].map base64Char ++ ['=', '=']
  | [] => []

end EpisodeGuide.Text
