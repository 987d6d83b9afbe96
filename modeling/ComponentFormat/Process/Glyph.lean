import ComponentFormat.Process.Octets
import ComponentFormat.Text.Identifier

/-! # Bytes read as characters

A row of bytes is read as a row of glyphs: characters, and bytes that belong to none. Glyphs have the classes that
patterns name, and case.
-/
namespace ComponentFormat

inductive Glyph where
  | char (c : Char)
  /-- A byte that belongs to no character. -/
  | stray (byte : Char)
  deriving DecidableEq, Repr

inductive GlyphClass where
  | alpha
  | digit
  | alnum
  | upper
  | lower
  | space
  | blank
  | punct
  | print
  | graph
  | cntrl
  | xdigit
  deriving DecidableEq, Repr

namespace GlyphClass

def names : List (String × GlyphClass) :=
  [("alpha", alpha), ("digit", digit), ("alnum", alnum), ("upper", upper), ("lower", lower), ("space", space),
    ("blank", blank), ("punct", punct), ("print", print), ("graph", graph), ("cntrl", cntrl), ("xdigit", xdigit)]

def named? (name : Octets) : Option GlyphClass :=
  (names.find? (·.1.toList == name)).map Prod.snd

/-- The spaces outside ASCII at which a line may be broken. -/
def wideBlanks : List (Nat × Nat) :=
  [(0x1680, 0x1680), (0x2000, 0x2006), (0x2008, 0x200A), (0x205F, 0x205F), (0x3000, 0x3000)]

/-- Letters outside ASCII, and digits and numerals that count as letters there. -/
def isWideLetter (c : Char) : Bool :=
  Text.isWordCharacter c && !Text.inRanges Text.figureRanges c.toNat

/-- The upper-case partner of a character, as one character. -/
def raise (c : Char) : Char :=
  match Text.titleSequence c with
  | [u] => u
  | _ => c

def lowered (c : Char) : Char := Text.lowerLetter c

def holdsWide (k : GlyphClass) (c : Char) : Bool :=
  let isBlank := Text.inRanges wideBlanks c.toNat
  let isBreak := c.toNat == 0x2028 || c.toNat == 0x2029
  let isControl := c.toNat < 0xA0 || isBreak
  match k with
  | .digit | .xdigit => false
  | .alpha | .alnum => isWideLetter c
  | .upper => lowered c != c
  | .lower => lowered c == c && Text.inRanges Text.casedRanges c.toNat
  | .blank => isBlank
  | .space => isBlank || isBreak
  | .cntrl => isControl
  | .print => !isControl
  | .graph => !isControl && !isBlank
  | .punct => !isControl && !isBlank && !isWideLetter c

def holdsNarrow (k : GlyphClass) (c : Char) : Bool :=
  match k with
  | .alpha => isAsciiLetter c
  | .digit => isAsciiDigit c
  | .alnum => isAsciiLetter c || isAsciiDigit c
  | .upper => 'A' ≤ c && c ≤ 'Z'
  | .lower => 'a' ≤ c && c ≤ 'z'
  | .space => c == ' ' || ('\t' ≤ c && c ≤ '\r')
  | .blank => c == ' ' || c == '\t'
  | .punct => '!' ≤ c && c ≤ '~' && !isAsciiLetter c && !isAsciiDigit c
  | .print => ' ' ≤ c && c ≤ '~'
  | .graph => '!' ≤ c && c ≤ '~'
  | .cntrl => Octets.isControl c
  | .xdigit => isAsciiDigit c || ('a' ≤ c.toLower && c.toLower ≤ 'f')

def holds (k : GlyphClass) (c : Char) : Bool :=
  if c.toNat < 0x80 then k.holdsNarrow c else k.holdsWide c

end GlyphClass

namespace Glyph

def spelling : Glyph → Octets
  | char c => if c.toNat < 0x80 then [c] else Octets.ofText [c]
  | stray b => [b]

def raise : Glyph → Glyph
  | char c => char (GlyphClass.raise c)
  | stray b => stray b

def lowered : Glyph → Glyph
  | char c => char (GlyphClass.lowered c)
  | stray b => stray b

def isIn (k : GlyphClass) : Glyph → Bool
  | char c => k.holds c
  | stray _ => false

def isWord (g : Glyph) : Bool := g.isIn .alnum || g == .char '_'

end Glyph

namespace Octets

def glyphsFrom : Nat → Octets → List Glyph
  | 0, _ | _ + 1, [] => []
  | fuel + 1, c :: t =>
    if c.toNat < 0x80 then .char c :: glyphsFrom fuel t
    else match Bytes.front c.toNat.toUInt8 (toBytes (t.take 3)) with
      | .char w => .char w :: glyphsFrom fuel (t.drop (w.utf8Size - 1))
      | .stray _ => .stray c :: glyphsFrom fuel t

def glyphs (o : Octets) : List Glyph := glyphsFrom o.length o

def spelling (gs : List Glyph) : Octets := gs.flatMap Glyph.spelling

example : glyphs (ofString "a–") = [.char 'a', .char '–'] := by decide +kernel
example : glyphs ['\xe2', 'x'] = [.stray '\xe2', .char 'x'] := by decide +kernel

end Octets

end ComponentFormat
