import ComponentFormat.Text.Basic
import ComponentFormat.Text.CaseTable
import ComponentFormat.Text.WordTable

/-! # Lower case, title case and caseless comparison

`lower` is the full lower case of a text, in which a sigma at the end of a word takes its final form.
`sameLetter` compares two single characters up to case: it looks at each character alone, so it is a coarser
test than comparing the lower cases of whole texts and the two need not agree outside ASCII.
-/
namespace ComponentFormat.Text

/-- The lower-case partner of a character, as one character. -/
def lowerLetter (c : Char) : Char :=
  if c.toNat < 0x80 then c.toLower else Char.ofNat (shiftBy lowerRuns c.toNat)

/-- The lower case of a character that is no capital sigma. Only the dotted capital I has two characters. -/
def lowerSequence (c : Char) : Text :=
  if c.toNat = 0x130 then ['i', Char.ofNat 0x307] else [lowerLetter c]

def isCaseIgnorable (c : Char) : Bool :=
  inRanges caseIgnorableRanges c.toNat

/-- The nearest character that is not transparent has case. -/
def meetsCased (t : Text) : Bool :=
  match t.dropWhile isCaseIgnorable with
  | [] => false
  | c :: _ => inRanges casedRanges c.toNat

/-- Lower case with the characters already passed, nearest first, as the context on the left. -/
def lowerFrom (passed : Text) : Text → Text
  | [] => []
  | c :: t =>
    let image :=
      if c.toNat = 0x3A3 then
        [if meetsCased passed && !meetsCased t then Char.ofNat 0x3C2 else Char.ofNat 0x3C3]
      else lowerSequence c
    image ++ lowerFrom (c :: passed) t

def lower (t : Text) : Text :=
  lowerFrom [] t

def titleSequence (c : Char) : Text :=
  if c.toNat < 0x80 then [c.toUpper]
  else match titleSequences.find? (·.1 == c.toNat) with
    | some (_, image) => image.map Char.ofNat
    | none => [Char.ofNat (shiftBy titleRuns c.toNat)]

/-- First character in title case, the others in lower case. -/
def capitalize : Text → Text
  | [] => []
  | c :: t => titleSequence c ++ lowerFrom [c] t

/-- Equal up to case: the lower-case partners are equal or share their upper case. -/
def sameLetter (a b : Char) : Bool :=
  let x := lowerLetter a
  let y := lowerLetter b
  x == y ||
    match sharedUpper.find? (·.1 == x.toNat) with
    | some (_, others) => others.contains y.toNat
    | none => false

/-- What follows at the front of the text after characters equal to those of `needle` up to case. -/
def afterCaseless? : Text → Text → Option Text
  | [], t => some t
  | _ :: _, [] => none
  | n :: needle, c :: t => if sameLetter n c then afterCaseless? needle t else none

def isWordCharacter (c : Char) : Bool :=
  if c.toNat < 0x80 then isAsciiLetter c || isAsciiDigit c || c == '_'
  else inRanges wordRanges c.toNat

example : lower "TabWIDTH".toList = "tabwidth".toList := by decide
example : lower [Char.ofNat 0x3A3, Char.ofNat 0x3A3] = [Char.ofNat 0x3C3, Char.ofNat 0x3C2] := by
  decide +kernel
example : capitalize "bOX".toList = "Box".toList := by decide

end ComponentFormat.Text
