import EpisodeGuide.Unicode.CombiningClass
import EpisodeGuide.Unicode.Composition

/-!
The composed normal form of texts. Every character is taken apart, marks are put in the order of
their classes, and what makes up one character is put together again.
-/

namespace EpisodeGuide.Unicode

/-! ### Hangul syllables -/

def syllableBase : Nat := 0xAC00

def leadBase : Nat := 0x1100

def vowelBase : Nat := 0x1161

/-- One below the first trailing consonant. -/
def trailBase : Nat := 0x11A7

def leadCount : Nat := 19

def vowelCount : Nat := 21

def trailCount : Nat := 28

def syllableCount : Nat := leadCount * vowelCount * trailCount

def syllableParts? (c : Nat) : Option (List Nat) :=
  if syllableBase ≤ c ∧ c < syllableBase + syllableCount then
    let i := c - syllableBase
    let lead := leadBase + i / (vowelCount * trailCount)
    let vowel := vowelBase + i % (vowelCount * trailCount) / trailCount
    let trail := i % trailCount
    some (if trail = 0 then [lead, vowel] else [lead, vowel, trailBase + trail])
  else none

/-- The syllable of a consonant and a vowel, or of a syllable and a trailing consonant. -/
def syllable? (a b : Nat) : Option Nat :=
  if leadBase ≤ a ∧ a < leadBase + leadCount ∧ vowelBase ≤ b ∧ b < vowelBase + vowelCount then
    some (syllableBase + ((a - leadBase) * vowelCount + (b - vowelBase)) * trailCount)
  else if syllableBase ≤ a ∧ a < syllableBase + syllableCount ∧
      (a - syllableBase) % trailCount = 0 ∧
      trailBase < b ∧ b < trailBase + trailCount then
    some (a + (b - trailBase))
  else none

/-! ### Taking apart -/

def decompositionDepth : Nat := 4

/-- A character taken apart in at most `depth` steps. -/
def decompose (depth : Nat) (c : Nat) : List Nat :=
  match depth with
  | 0 => [c]
  | depth + 1 =>
    match syllableParts? c with
    | some letters => letters
    | none =>
      match parts? c with
      | some (a, b) => decompose depth a ++ [b]
      | none => [c]

/-- Puts a character behind a text whose last character comes first; a mark moves before marks of
higher classes. -/
def insertMark (c : Nat) : List Nat → List Nat
  | [] => [c]
  | d :: before =>
    if combiningClass c ≠ 0 ∧ combiningClass c < combiningClass d then d :: insertMark c before
    else c :: d :: before

def orderMarks (s : List Nat) : List Nat :=
  (s.foldl (fun before c => insertMark c before) []).reverse

/-! ### Putting together -/

/-- A text that is being put together: what is finished, the character that others may join, and
what stands behind it, each with the last character first. -/
structure Composing where
  finished : List Nat
  starter : Option Nat
  behind : List Nat

/-- Whether something between the starter and a character keeps them apart. -/
def isBlocked (behind : List Nat) (c : Nat) : Bool :=
  match behind with
  | [] => false
  | d :: _ => combiningClass c ≤ combiningClass d

def compose? (a b : Nat) : Option Nat :=
  match syllable? a b with
  | some c => some c
  | none => composite? a b

def Composing.add (st : Composing) (c : Nat) : Composing :=
  let joined := if isBlocked st.behind c then none else st.starter.bind (compose? · c)
  match joined with
  | some whole => { st with starter := some whole }
  | none =>
    if combiningClass c = 0 then ⟨st.behind ++ st.starter.toList ++ st.finished, some c, []⟩
    else { st with behind := c :: st.behind }

def composeAll (s : List Nat) : List Nat :=
  let st := s.foldl Composing.add ⟨[], none, []⟩
  (st.behind ++ st.starter.toList ++ st.finished).reverse

/-- The composed normal form of a text. A text in ASCII is its own. -/
def normalize (s : List Nat) : List Nat :=
  if s.all (· < 0x80) then s
  else composeAll (orderMarks (s.flatMap (decompose decompositionDepth)))

end EpisodeGuide.Unicode
