import ComponentFormat.Process.Shell.Integer
import ComponentFormat.Process.Sleep

/-! # Formats

A format is written with arguments in place of its directives, again and again while there are arguments left.
Escapes stand for bytes.
-/
namespace ComponentFormat.Shell

/-! ## Escapes -/

namespace Escape

def isOctal (c : Char) : Bool := '0' ≤ c && c ≤ '7'

def letters : List (Char × Char) :=
  [('\\', '\\'), ('a', '\x07'), ('b', '\x08'), ('e', '\x1b'), ('f', '\x0c'), ('n', '\n'), ('r', '\r'), ('t', '\t'),
    ('v', '\x0b')]

/-- At most three octal digits at the front as a byte, and what follows. -/
def octal? (t : Octets) : Option (Char × Octets) :=
  let ds := (t.take 3).takeWhile isOctal
  (Number.natural? 8 ds).map fun n => (Char.ofNat (n % 256), t.drop ds.length)

/-- The byte of an escape behind its backslash, and what follows. -/
def byte? (t : Octets) : Option (Char × Octets) :=
  match t with
  | [] => none
  | c :: rest => (octal? t).or ((Keyed.get? c letters).map fun b => (b, rest))

/-- A text with its escapes resolved, and whether it ended with the request to write no more. A zero may stand in
front of three octal digits. -/
def resolve : Nat → Octets → Octets × Bool
  | 0, _ | _, [] => ([], false)
  | fuel + 1, '\\' :: t =>
    match t with
    | 'c' :: _ => ([], true)
    | _ =>
      let zero? := match t with
        | '0' :: rest => (octal? rest).or (some ('\x00', rest))
        | _ => none
      match zero?.or (byte? t) with
      | some (b, rest) =>
        let (more, stops) := resolve fuel rest
        (b :: more, stops)
      | none =>
        let (more, stops) := resolve fuel t
        ('\\' :: more, stops)
  | fuel + 1, c :: t =>
    let (more, stops) := resolve fuel t
    (c :: more, stops)

end Escape

/-! ## Numbers as text -/

structure Flags where
  left : Bool
  plus : Bool
  space : Bool
  alternate : Bool
  zeros : Bool
  deriving DecidableEq, Repr

namespace Flags

def signOf (f : Flags) (negative : Bool) : Octets :=
  if negative then ['-'] else if f.plus then ['+'] else if f.space then [' '] else []

/-- A number with a sign or mark in front, padded behind it with zeros or around it with blanks. -/
def padded (f : Flags) (width : Nat) (zeros : Bool) (sign digits : Octets) : Octets :=
  let n := width - (sign.length + digits.length)
  if f.left then sign ++ digits ++ List.replicate n ' '
  else if f.zeros && zeros then sign ++ List.replicate n '0' ++ digits
  else List.replicate n ' ' ++ sign ++ digits

end Flags

namespace Format

/-- An integer in a base; with a precision it has at least so many digits. -/
def natural (base : Nat) (capital : Bool) (precision : Option Nat) (n : Nat) : Octets :=
  let ds := if n = 0 ∧ precision = some 0 then [] else Nat.toDigits base n
  let ds := if capital then ds.map Char.toUpper else ds
  List.replicate (precision.getD 1 - ds.length) '0' ++ ds

/-- The nearest integer to a quotient, a half going to the even neighbour. -/
def nearest (num den : Nat) : Nat :=
  let q := num / den
  let r := num % den
  if 2 * r < den || (2 * r = den && q % 2 = 0) then q else q + 1

structure Quotient where
  num : Nat
  den : Nat
  deriving DecidableEq, Repr

namespace Quotient

def scaled (q : Quotient) (e : Int) : Quotient :=
  ⟨q.num * Number.tenTo e.toNat, q.den * Number.tenTo (-e).toNat⟩

/-- The greatest power of ten that is not above the number. -/
def magnitude (q : Quotient) : Int :=
  let guess : Int := (Nat.toDigits 10 q.num).length - (Nat.toDigits 10 q.den).length
  if q.den * Number.tenTo guess.toNat ≤ q.num * Number.tenTo (-guess).toNat then guess else guess - 1

/-- So many digits and the power of ten of the first. -/
def digits (q : Quotient) (count : Nat) : Octets × Int :=
  if q.num = 0 then (List.replicate count '0', 0)
  else
    let e := q.magnitude
    let p := q.scaled (count - 1 - e)
    let n := nearest p.num p.den
    if n = Number.tenTo count then (Nat.toDigits 10 (n / 10), e + 1) else (Nat.toDigits 10 n, e)

end Quotient

def withPoint (alternate : Bool) (whole part : Octets) : Octets :=
  if part.isEmpty && !alternate then whole else whole ++ '.' :: part

def positional (alternate : Bool) (places : Nat) (q : Quotient) : Octets :=
  let p := q.scaled places
  let ds := Nat.toDigits 10 (nearest p.num p.den)
  let ds := List.replicate (places + 1 - ds.length) '0' ++ ds
  withPoint alternate (ds.take (ds.length - places)) (ds.drop (ds.length - places))

def exponent (letter : Char) (e : Int) : Octets :=
  let ds := Nat.toDigits 10 e.natAbs
  letter :: (if e < 0 then '-' else '+') :: (if ds.length < 2 then '0' :: ds else ds)

/-- One digit, so many places, and an exponent. -/
def scientific (alternate : Bool) (letter : Char) (places : Nat) (q : Quotient) : Octets :=
  let (ds, e) := q.digits (places + 1)
  withPoint alternate (ds.take 1) (ds.drop 1) ++ exponent letter e

/-- So many digits in the shorter of the two ways, without zeros at the end unless they are asked for. -/
def general (alternate : Bool) (letter : Char) (count : Nat) (q : Quotient) : Octets :=
  let count := max count 1
  let (ds, e) := q.digits count
  let trimmed (t : Octets) : Octets := if alternate then t else Text.trimEnd (· == '0') t
  if -4 ≤ e ∧ e < count then
    let places := (count - 1 - e).toNat
    let p := q.scaled places
    let all := Nat.toDigits 10 (nearest p.num p.den)
    let all := List.replicate (places + 1 - all.length) '0' ++ all
    withPoint alternate (all.take (all.length - places)) (trimmed (all.drop (all.length - places)))
  else withPoint alternate (ds.take 1) (trimmed (ds.drop 1)) ++ exponent letter e

/-- A double by the letter of its directive: its sign, its text, and whether zeros may stand in front. -/
def double (f : Flags) (letter : Char) (precision : Option Nat) (x : Float) : Octets × Octets × Bool :=
  let capital := letter.isUpper
  let word (s : String) : Octets := if capital then s.toList.map Char.toUpper else s.toList
  let negative := twoTo 63 ≤ x.toBits.toNat
  match Scalar.floatParts x with
  | none => (f.signOf negative, word (if x.isNaN then "nan" else "inf"), false)
  | some (m, e) =>
    let q : Quotient := ⟨m.natAbs * twoTo e.toNat, twoTo (-e).toNat⟩
    let places := precision.getD 6
    let e := if capital then 'E' else 'e'
    let text := match letter.toLower with
      | 'f' => positional f.alternate places q
      | 'e' => scientific f.alternate e places q
      | _ => general f.alternate e places q
    (f.signOf negative, text, true)

end Format

/-! ## Directives -/

structure Formatted where
  output : Octets
  warnings : List Octets
  fault : Option Octets
  stops : Bool
  arguments : List Octets
  takes : Bool

namespace Formatted

def start (arguments : List Octets) : Formatted := ⟨[], [], none, false, arguments, false⟩

def write (o : Octets) (f : Formatted) : Formatted := { f with output := f.output ++ o }

def warn (argument : Octets) (reason : String) (f : Formatted) : Formatted :=
  { f with warnings := f.warnings ++ [argument ++ ": ".toList ++ reason.toList] }

def next (f : Formatted) : Option Octets × Formatted :=
  match f.arguments with
  | [] => (none, f)
  | a :: rest => (some a, { f with arguments := rest, takes := true })

/-- Warn about an argument of which only a part was a number. -/
def checked (argument rest : Octets) (outside : Bool) (f : Formatted) : Formatted :=
  if rest.length = argument.length && !rest.isEmpty then f.warn argument "expected numeric value"
  else if !rest.isEmpty then f.warn argument "not completely converted"
  else if outside then f.warn argument "Numerical result out of range"
  else f

/-- The code of the character behind a quote. -/
def code? (argument : Octets) : Option Nat :=
  match argument with
  | '\'' :: t | '"' :: t => some ((t.head?.map Char.toNat).getD 0)
  | _ => none

def integer (signed : Bool) (f : Formatted) : Int × Formatted :=
  match f.next with
  | (none, f) => (0, f)
  | (some a, f) =>
    match code? a, Integer.scan? true a with
    | some n, _ => (n, f)
    | none, none => (0, f.checked a a false)
    | none, some (n, rest) =>
      let top := Int.ofNat (twoTo 64)
      if signed then (Integer.clamped n, f.checked a rest (Integer.clamped n != n))
      else
        let outside := top ≤ n || n ≤ -top
        (if outside then top - 1 else Int.emod n top, f.checked a rest outside)

def float (f : Formatted) : Float × Formatted :=
  match f.next with
  | (none, f) => (0.0, f)
  | (some a, f) =>
    match code? a with
    | some n => (Float.ofNat n, f)
    | none =>
      let (negative, t) := Number.signed (a.dropWhile Number.isPadding)
      let lower := t.map Char.toLower
      let word (s : String) (x : Float) : Option (Float × Octets) :=
        (Text.after? s.toList lower).map fun rest => (x, t.drop (t.length - rest.length))
      let found? := (((word "infinity" (1.0 / 0.0)).or (word "inf" (1.0 / 0.0))).or (word "nan" (0.0 / 0.0))).or
        ((Sleep.number? t).map fun p => (Number.toFloat p.1.1 p.1.2, p.2))
      match found? with
      | none => (0.0, f.checked a a false)
      | some (x, rest) =>
        (if negative then -x else x, f.checked a rest (x.isInf && lower.head? != some 'i'))

end Formatted

namespace Format

def isFlag (c : Char) : Bool := ['#', '-', '+', ' ', '0'].contains c

def isSize (c : Char) : Bool := c == '*' || isAsciiDigit c

def Flags.ofText (t : Octets) : Flags where
  left := t.any (· == '-')
  plus := t.any (· == '+')
  space := t.any (· == ' ')
  alternate := t.any (· == '#')
  zeros := t.any (· == '0')

/-- A width or precision, which an argument may give. -/
def size (t : Octets) (f : Formatted) : Option Int × Octets × Formatted :=
  match t with
  | '*' :: rest =>
    let (n, f) := f.integer true
    (some n, rest, f)
  | _ =>
    let ds := t.takeWhile isAsciiDigit
    ((Number.natural? 10 ds).map Int.ofNat, t.dropWhile isSize, f)

/-- Write one directive, the percent sign being read: what follows it in the format, and what is written. -/
def directive (t : Octets) (f : Formatted) : Octets × Formatted :=
  let flagText := t.takeWhile isFlag
  let (width, rest, f) := size (t.dropWhile isFlag) f
  let (precision, rest, f) : Option Int × Octets × Formatted := match rest with
    | '.' :: rest =>
      let (p, rest, f) := size rest f
      (some (p.getD 0), rest, f)
    | _ => (none, rest, f)
  let flags := Flags.ofText flagText
  let flags := if (width.getD 0) < 0 then { flags with left := true } else flags
  let width := (width.getD 0).natAbs
  let precision := precision.bind fun p => if p < 0 then none else some p.toNat
  let text (o : Octets) : Octets :=
    { flags with zeros := false }.padded width false [] (match precision with
      | some p => o.take p
      | none => o)
  let number (sign digits : Octets) : Octets := flags.padded width precision.isNone sign digits
  match rest with
  | [] => ([], { f with fault := some "missing format character".toList })
  | c :: rest =>
    let unsigned (base : Nat) (mark : Octets) : Octets × Formatted :=
      let (n, f) := f.integer false
      let ds := natural base (c == 'X') precision n.toNat
      let ds := if base = 8 && flags.alternate && ds.head? != some '0' then '0' :: ds else ds
      (rest, f.write (number (if base = 16 && flags.alternate && n ≠ 0 then mark else []) ds))
    match c with
    | 'b' =>
      let (a, f) := f.next
      let a := a.getD []
      let (o, stops) := Escape.resolve a.length a
      (rest, { f.write (text o) with stops })
    | 'c' =>
      let (a, f) := f.next
      let c := ((a.getD []).head?).getD '\x00'
      (rest, f.write ({ flags with zeros := false }.padded width false [] [c]))
    | 's' =>
      let (a, f) := f.next
      (rest, f.write (text (a.getD [])))
    | 'd' | 'i' =>
      let (n, f) := f.integer true
      (rest, f.write (number (flags.signOf (n < 0)) (natural 10 false precision n.natAbs)))
    | 'u' => unsigned 10 []
    | 'o' => unsigned 8 []
    | 'x' => unsigned 16 ['0', 'x']
    | 'X' => unsigned 16 ['0', 'X']
    | 'e' | 'E' | 'f' | 'F' | 'g' | 'G' =>
      let (x, f) := f.float
      let (sign, digits, zeros) := double flags c precision x
      (rest, f.write (flags.padded width zeros sign digits))
    | _ =>
      let shown := '%' :: t.take (t.length - rest.length)
      ([], { f with fault := some (shown ++ ": invalid directive".toList) })

def once : Nat → Octets → Formatted → Formatted
  | 0, _, f => f
  | _, [], f => f
  | fuel + 1, c :: t, f =>
    if f.stops || f.fault.isSome then f
    else if c == '\\' then
      match Escape.byte? t with
      | some (b, rest) => once fuel rest (f.write [b])
      | none => once fuel t (f.write ['\\'])
    else if c == '%' then
      match t with
      | '%' :: t => once fuel t (f.write ['%'])
      | _ =>
        let (rest, f) := directive t f
        once fuel rest f
    else
      let plain := t.takeWhile fun c => c != '\\' && c != '%'
      once fuel (t.drop plain.length) (f.write (c :: plain))

/-- Write a format as often as there are arguments for it. -/
def again (format : Octets) : Nat → Formatted → Formatted
  | 0, f => f
  | fuel + 1, f =>
    let g := once (format.length + 1) format { f with takes := false }
    if g.stops || g.fault.isSome || g.arguments.isEmpty || !g.takes then g else again format fuel g

def run (format : Octets) (arguments : List Octets) : Formatted :=
  again format (arguments.length + 1) (.start arguments)

end Format

end ComponentFormat.Shell
