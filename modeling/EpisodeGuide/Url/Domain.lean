import EpisodeGuide.Unicode.BidiClass
import EpisodeGuide.Unicode.JoiningType
import EpisodeGuide.Unicode.Mapping
import EpisodeGuide.Unicode.Mark
import EpisodeGuide.Unicode.Normalization
import EpisodeGuide.Url.Percent
import EpisodeGuide.Url.Punycode

/-!
Domain names in ASCII. A name is mapped and composed, and split into labels at its dots; every label
must be well formed, and one that is not ASCII is written in Punycode behind a mark of its own.
Readers of names refuse very long labels; that limit is left out, and labels may have any length.
-/

namespace EpisodeGuide.Url.Domain

open Unicode

abbrev Label := List Char

/-- Characters of ASCII that no domain may hold. -/
def isForbidden (c : Char) : Bool :=
  isControl c || " %#/:<>?@[\\]^|".contains c

def isAscii (s : List Char) : Bool :=
  s.all (·.toNat < 0x80)

def lowerAscii (s : List Char) : List Char :=
  s.map Char.toLower

def codedMark : List Char := "xn--".toList

def afterMark? (s : Label) : Option (List Char) :=
  if s.take codedMark.length = codedMark then some (s.drop codedMark.length) else none

def normalForm (s : List Char) : List Char :=
  (normalize (s.map Char.toNat)).map Char.ofNat

/-- The mapped and composed form of a text, if all its characters have a place in a domain. -/
def mapText? (s : List Char) : Option (List Char) :=
  (s.mapM fun c => mapCodePoint? c.toNat).map fun mapped =>
    normalForm (mapped.flatten.map Char.ofNat)

/-! ### Joiners -/

def nonJoiner : Char := '\u200c'

def joiner : Char := '\u200d'

def isTransparent (c : Char) : Bool :=
  joiningType c.toNat == .transparent

/-- Whether the nearest character that is not passed over joins on one of the given sides. -/
def joinsWith (sides : List JoiningType) (s : Label) : Bool :=
  match (s.dropWhile isTransparent).head? with
  | some c => sides.contains (joiningType c.toNat)
  | none => false

/-- Whether a joiner or non-joiner has a meaning between what stands before it, the nearest first,
and behind it. -/
def joinsProperly (before : Label) (c : Char) (behind : Label) : Bool :=
  let afterVirama := before.head?.any (fun d => combiningClass d.toNat == viramaClass)
  if c = joiner then afterVirama
  else if c = nonJoiner then
    afterVirama || (joinsWith [.left, .dual] before && joinsWith [.right, .dual] behind)
  else true

def joinersFit (before : Label) : Label → Bool
  | [] => true
  | c :: behind => joinsProperly before c behind && joinersFit (c :: before) behind

/-! ### Directions -/

/-- Whether a label is written from the right, in part at least. -/
def isFromRight (s : Label) : Bool :=
  s.any (fun c => [BidiClass.right, .arabicLetter, .arabicNumber].contains (bidiClass c.toNat))

def neutralClasses : List BidiClass :=
  [.europeanNumber, .europeanSeparator, .commonSeparator, .europeanTerminator, .otherNeutral,
    .boundaryNeutral, .nonspacingMark]

def lastClass? (classes : List BidiClass) : Option BidiClass :=
  (classes.reverse.dropWhile (· == .nonspacingMark)).head?

def directionFits (classes : List BidiClass) : Bool :=
  match classes.head?, lastClass? classes with
  | none, _ => true
  | some .left, some last =>
    classes.all (fun c => (.left :: neutralClasses).contains c) &&
      [BidiClass.left, .europeanNumber].contains last
  | some first, some last =>
    [BidiClass.right, .arabicLetter].contains first &&
      classes.all (fun c =>
        (.right :: .arabicLetter :: .arabicNumber :: neutralClasses).contains c) &&
      [BidiClass.right, .arabicLetter, .europeanNumber, .arabicNumber].contains last &&
      !(classes.contains .europeanNumber && classes.contains .arabicNumber)
  | some _, none => false

/-- Whether the labels of a name can stand together: one from the right calls for order in all. -/
def directionsFit (labels : List Label) : Bool :=
  !labels.any isFromRight || labels.all (fun s => directionFits (s.map fun c => bidiClass c.toNat))

/-! ### Labels -/

def isKept (c : Char) : Bool :=
  mapCodePoint? c.toNat == some [c.toNat]

/-- Whether a label is composed of characters that stay, starts with no mark, and has joiners only
where they have a meaning. -/
def isWellFormed (s : Label) : Bool :=
  s.all isKept && normalForm s == s && !s.head?.any (isMark ·.toNat) && joinersFit [] s

/-- The label that is meant: what Punycode stands for, or the label itself. -/
def readLabel? (s : Label) : Option Label :=
  match afterMark? s with
  | none => some s
  | some rest =>
    if isAscii rest then (Punycode.decode? rest).filter (fun t => !isAscii t) else none

def printLabel (s : Label) : List Char :=
  if isAscii s then s else codedMark ++ Punycode.encode s

def labels? (s : List Char) : Option (List Label) := do
  let mapped ← mapText? s
  let labels ← (mapped.splitOn '.').mapM readLabel?
  if labels.all isWellFormed && directionsFit labels then some labels else none

def hasCoded (s : List Char) : Bool :=
  (s.splitOn '.').any (fun label => label.take codedMark.length == codedMark)

/-- The ASCII form of a name. One in ASCII with no label in Punycode needs only its case lowered. -/
def toAscii? (s : List Char) : Option (List Char) :=
  let lowered := lowerAscii s
  let converted :=
    if isAscii s && !hasCoded lowered then some lowered
    else (labels? s).map fun labels => ['.'].intercalate (labels.map printLabel)
  converted.filter (fun name => !name.any isForbidden)

end EpisodeGuide.Url.Domain
