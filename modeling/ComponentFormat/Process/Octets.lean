import ComponentFormat.Process.Bytes

/-! # Octets

Programs take and give bytes. A row of bytes is written as a text here, each character being the number of a
byte, so that words of the programs' languages can be written as they look.
-/
namespace ComponentFormat

abbrev Octets := Text

namespace Octets

def ofBytes (b : Bytes) : Octets := b.map fun x => Char.ofNat x.toNat

def toBytes (o : Octets) : Bytes := o.map fun c => c.toNat.toUInt8

def ofText (t : Text) : Octets := ofBytes (Bytes.ofText t)

def ofString (s : String) : Octets := ofText s.toList

def ofNat (n : Nat) : Octets := Nat.toDigits 10 n

def ofInt (n : Int) : Octets := if n < 0 then '-' :: ofNat n.natAbs else ofNat n.natAbs

/-- The order by bytes, a front before what goes on with it. -/
def atMost (a b : Octets) : Bool := !b.lex a fun c d => c.toNat < d.toNat

def isControl (c : Char) : Bool := c.toNat < 0x20 || c.toNat = 0x7F

def octal (c : Char) : Octets :=
  let digit (n : Nat) : Char := Char.ofNat (n % 8 + '0'.toNat)
  [digit (c.toNat / 64), digit (c.toNat / 8), digit c.toNat]

/-- Letters that stand for control characters behind a backslash. -/
def controlLetters : List (Char × Char) :=
  [('\x07', 'a'), ('\x08', 'b'), ('\x0c', 'f'), ('\n', 'n'), ('\r', 'r'), ('\t', 't'), ('\x0b', 'v')]

def closing : Octets := ofString "’"

/-- A text as characters, each with its octets. -/
def pieces (o : Octets) : List (Bytes.Front × Octets) := split (Bytes.fronts o.length (toBytes o)) o
where
  split : List Bytes.Front → Octets → List (Bytes.Front × Octets)
    | [], _ => []
    | f :: fs, o => (f, o.take f.size) :: split fs (o.drop f.size)

def escape? : Bytes.Front × Octets → Option Octets
  | (.char c, raw) =>
    if isControl c then
      match controlLetters.find? (·.1 == c) with
      | some p => some ['\\', p.2]
      | none => some ('\\' :: octal c)
    else if 0x80 ≤ c.toNat && c.toNat < 0xA0 then some (raw.flatMap fun c => '\\' :: octal c)
    else none
  | (.stray _, raw) => some (raw.flatMap fun c => '\\' :: octal c)

def quote (o : Octets) : Octets :=
  let shown (p : Bytes.Front × Octets) : Octets :=
    match escape? p with
    | some t => t
    | none => if p.2 = ['\\'] then ['\\', '\\'] else if p.2 = closing then '\\' :: closing else p.2
  ofString "‘" ++ o.pieces.flatMap shown ++ closing

/-! ## Names of files -/

/-- Characters that a shell takes for something else wherever they stand. -/
def isShellSpecial (c : Char) : Bool :=
  ['!', '"', '$', '&', '(', ')', '*', ';', '<', '=', '>', '[', '^', '\x60', '|', '\\', '?'].contains c

/-- A name in single quotes, what cannot be shown standing in quotes with escapes; `escaping` tells whether such
quotes are open. -/
def singleQuoted (escaping : Bool) : List (Bytes.Front × Octets) → Octets
  | [] => ['\'']
  | p :: ps =>
    match escape? p with
    | some t => (if escaping then [] else "'$'".toList) ++ t ++ singleQuoted true ps
    | none =>
      if p.2 = ['\''] then "'\\''".toList ++ singleQuoted false ps
      else (if escaping then "''".toList else []) ++ p.2 ++ singleQuoted false ps

/-- A file's name as reports show it: quoted when a shell would not read it as one plain word. -/
def quoteName (o : Octets) : Octets :=
  let isMark (c : Char) : Bool := c == '#' || c == '~'
  let shows := o.pieces.all fun p => (escape? p).isNone
  let special := o.any isShellSpecial
  let quotes := o.any (· == '\'')
  let isPlain := !o.isEmpty && shows && !special && !quotes && !o.any (fun c => c == ' ' || c == ':') &&
    !o.head?.any isMark && o != ['\x7b'] && o != ['\x7d']
  if isPlain then o
  else if quotes && shows && !special && !o.tail.any isMark && !o.any (fun c => c == '\x7b' || c == '\x7d') then
    '"' :: o ++ ['"']
  else
    -- With a quote in it, a name that ends in an escape is written as if one were open at its start.
    let escaping := quotes && o.pieces.getLast?.any fun p => (escape? p).isSome
    '\'' :: singleQuoted escaping o.pieces

end Octets

end ComponentFormat
