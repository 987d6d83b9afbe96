import ComponentFormat.Text.Basic

/-! # A place in a YAML text

The text still to be read with the line and column reached. The end of the text reads as a NUL character,
which no readable text holds.
-/
namespace ComponentFormat.Yaml

/-- Why a text that follows the rules of the format has no value all the same. -/
inductive Unconvertible where
  /-- A number, a date or a character that does not exist. -/
  | outOfRange
  /-- A number that is too large for what it has to be. -/
  | tooLarge
  /-- A number without anything but a sign. -/
  | empty
  /-- A word that is no truth value. -/
  | unknownWord
  /-- A text that is not written like a date. -/
  | notDate
  /-- Collections that stand too deep inside each other. -/
  | tooDeep
  deriving DecidableEq, Repr

inductive Fault where
  | malformed
  | unconvertible (u : Unconvertible)
  deriving DecidableEq, Repr

def isBreak (c : Char) : Bool :=
  c == '\n' || c == '\r' || c.toNat == 0x85 || c.toNat == 0x2028 || c.toNat == 0x2029

def isStop (c : Char) : Bool := c == '\x00' || isBreak c

def isSpaceOrStop (c : Char) : Bool := c == ' ' || isStop c

def isGap (c : Char) : Bool := c == '\t' || isSpaceOrStop c

def isByteOrderMark (c : Char) : Bool := c.toNat == 0xFEFF

def isPrintable (c : Char) : Bool :=
  let n := c.toNat
  n == 0x09 || n == 0x0A || n == 0x0D || (0x20 ≤ n && n ≤ 0x7E) || n == 0x85 ||
    (0xA0 ≤ n && n ≤ 0xD7FF) || (0xE000 ≤ n && n ≤ 0xFFFD) || 0x10000 ≤ n

structure Cursor where
  rest : Text
  index : Nat
  line : Nat
  column : Nat

namespace Cursor

def ofText (t : Text) : Cursor := ⟨t, 0, 0, 0⟩

def peek (c : Cursor) : Char := c.rest.headD '\x00'

def peekAt (c : Cursor) (n : Nat) : Char := (c.rest.drop n).headD '\x00'

/-- Pass one character. The carriage return of a CR LF does not end the line by itself. -/
def step (c : Cursor) : Cursor :=
  match c.rest with
  | [] => c
  | d :: t =>
    if isBreak d && !(d == '\r' && t.head? == some '\n') then ⟨t, c.index + 1, c.line + 1, 0⟩
    else if isByteOrderMark d then { c with rest := t, index := c.index + 1 }
    else { c with rest := t, index := c.index + 1, column := c.column + 1 }

def advance : Nat → Cursor → Cursor
  | 0, c => c
  | n + 1, c => advance n c.step

def skipWhile (p : Char → Bool) (c : Cursor) : Cursor :=
  c.advance (c.rest.takeWhile p).length

def skipSpaces (c : Cursor) : Cursor := c.skipWhile (· == ' ')

/-- To the end of the line if a comment starts here. -/
def skipComment (c : Cursor) : Cursor :=
  if c.peek == '#' then c.skipWhile (!isStop ·) else c

/-- The line break at the cursor as it counts in a scalar, and the place behind it. -/
def lineBreak? (c : Cursor) : Option (Char × Cursor) :=
  let d := c.peek
  if d == '\r' || d == '\n' || d.toNat == 0x85 then
    some ('\n', if d == '\r' && c.peekAt 1 == '\n' then c.advance 2 else c.step)
  else if isBreak d then some (d, c.step)
  else none

def skipBreak (c : Cursor) : Cursor :=
  match c.lineBreak? with
  | some (_, c) => c
  | none => c

/-- Blanks and a comment up to the end of the line, and the break. -/
def restOfLine (c : Cursor) : Except Fault Cursor :=
  let c := c.skipSpaces.skipComment
  if isStop c.peek then .ok c.skipBreak else .error .malformed

/-- Three characters and a gap: a document starts or ends here, were this the first column. -/
def atMarker (mark : Text) (c : Cursor) : Bool :=
  c.rest.take 3 == mark && isGap (c.peekAt 3)

def atDocumentMarker (c : Cursor) : Bool :=
  c.atMarker ['-', '-', '-'] || c.atMarker ['.', '.', '.']

end Cursor

end ComponentFormat.Yaml
