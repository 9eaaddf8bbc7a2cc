/-!
Lenient reading of UTF-8. Bytes that spell no character give a replacement character: one for each
longest start of a character, and one for each byte that starts none.
-/

namespace EpisodeGuide.Text

/-- A character of which bytes are missing: how many, the range of the next one, and the bits so
far. -/
structure Pending where
  need : Nat
  low : Nat
  high : Nat
  bits : Nat
  deriving DecidableEq, Repr

def replacement : Char := '\uFFFD'

def firstByte (b : Nat) : List Char × Option Pending :=
  if b < 0x80 then ([Char.ofNat b], none)
  else if b < 0xC2 then ([replacement], none)
  else if b < 0xE0 then ([], some ⟨1, 0x80, 0xBF, b - 0xC0⟩)
  else if b < 0xF0 then
    let low := if b == 0xE0 then 0xA0 else 0x80
    let high := if b == 0xED then 0x9F else 0xBF
    ([], some ⟨2, low, high, b - 0xE0⟩)
  else if b < 0xF5 then
    let low := if b == 0xF0 then 0x90 else 0x80
    let high := if b == 0xF4 then 0x8F else 0xBF
    ([], some ⟨3, low, high, b - 0xF0⟩)
  else ([replacement], none)

/-- What a byte says behind a character of which bytes are missing, or behind a complete one. -/
def nextByte (pending : Option Pending) (b : Nat) : List Char × Option Pending :=
  match pending with
  | none => firstByte b
  | some p =>
    if p.low ≤ b ∧ b ≤ p.high then
      let bits := p.bits * 64 + (b - 0x80)
      if p.need ≤ 1 then ([Char.ofNat bits], none) else ([], some ⟨p.need - 1, 0x80, 0xBF, bits⟩)
    else
      let (chars, pending) := firstByte b
      (replacement :: chars, pending)

def decodeLossyFrom (pending : Option Pending) : List UInt8 → List Char
  | [] => if pending.isSome then [replacement] else []
  | b :: bytes =>
    let (chars, pending) := nextByte pending b.toNat
    chars ++ decodeLossyFrom pending bytes

/-- The text that bytes spell, with replacements for what spells nothing. -/
def decodeLossy (bytes : List UInt8) : String :=
  String.ofList (decodeLossyFrom none bytes)

end EpisodeGuide.Text
