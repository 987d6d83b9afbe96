import ComponentFormat.Text.Basic
import ComponentFormat.Value

/-! # Numbers in text

Decimal digits to numbers, and the shortest decimal that reads back as a given double.
-/
namespace ComponentFormat.Number

def tenTo (n : Nat) : Nat := Nat.pow 10 n

def digit? (base : Nat) (c : Char) : Option Nat :=
  let n :=
    if isAsciiDigit c then c.toNat - '0'.toNat
    else if 'a' ≤ c && c ≤ 'z' then c.toNat - 'a'.toNat + 10
    else if 'A' ≤ c && c ≤ 'Z' then c.toNat - 'A'.toNat + 10
    else base
  if n < base then some n else none

/-- The number that a non-empty row of digits stands for. -/
def natural? (base : Nat) (t : Text) : Option Nat :=
  if t.isEmpty then none
  else t.foldlM (fun n c => (digit? base c).map (n * base + ·)) 0

/-- The double nearest to `mantissa * 10 ^ exponent`. Exponents beyond every double are not computed. -/
def toFloat (mantissa : Nat) (exponent : Int) : Float :=
  let digits : Int := (Nat.toDigits 10 mantissa).length
  if mantissa = 0 then 0.0
  else if exponent + digits > 400 then 1.0 / 0.0
  else if exponent + digits < -400 then 0.0
  else if exponent < 0 then Float.ofScientific mantissa true (-exponent).toNat
  else Float.ofScientific (mantissa * tenTo exponent.toNat) false 0

/-- Digits with at most one point among them, and a signed exponent: the mantissa and the power of ten. -/
def decimal? (t : Text) : Option (Nat × Int) := do
  let isE (c : Char) : Bool := c == 'e' || c == 'E'
  let front := t.takeWhile (!isE ·)
  let whole := front.takeWhile (· != '.')
  let part := (front.dropWhile (· != '.')).drop 1
  let mantissa ← natural? 10 (whole ++ part)
  let exponent ←
    match t.dropWhile (!isE ·) with
    | [] => some (0 : Int)
    | _ :: '-' :: ds => (natural? 10 ds).map fun n => -(n : Int)
    | _ :: '+' :: ds => (natural? 10 ds).map Int.ofNat
    | _ :: ds => (natural? 10 ds).map Int.ofNat
  return (mantissa, exponent - part.length)

/-- Low lines are allowed between two digits only. -/
def withoutGroups? : Text → Option Text
  | [] => some []
  | [c] => if c = '_' then none else some [c]
  | c :: '_' :: d :: t =>
    if isAsciiDigit c && isAsciiDigit d then (withoutGroups? (d :: t)).map (c :: ·) else none
  | c :: t => if c = '_' then none else (withoutGroups? t).map (c :: ·)

/-- The zeros of the decimal digits of all scripts; the other nine digits stand behind each. Version 14.0 of the
character database. -/
def zeros : List Nat :=
  [0x30, 0x660, 0x6F0, 0x7C0, 0x966, 0x9E6, 0xA66, 0xAE6, 0xB66, 0xBE6, 0xC66, 0xCE6, 0xD66, 0xDE6, 0xE50,
    0xED0, 0xF20, 0x1040, 0x1090, 0x17E0, 0x1810, 0x1946, 0x19D0, 0x1A80, 0x1A90, 0x1B50, 0x1BB0, 0x1C40,
    0x1C50, 0xA620, 0xA8D0, 0xA900, 0xA9D0, 0xA9F0, 0xAA50, 0xABF0, 0xFF10, 0x104A0, 0x10D30, 0x11066,
    0x110F0, 0x11136, 0x111D0, 0x112F0, 0x11450, 0x114D0, 0x11650, 0x116C0, 0x11730, 0x118E0, 0x11950,
    0x11C50, 0x11D50, 0x11DA0, 0x16A60, 0x16AC0, 0x16B50, 0x1D7CE, 0x1D7D8, 0x1D7E2, 0x1D7EC, 0x1D7F6,
    0x1E140, 0x1E2F0, 0x1E950, 0x1FBF0]

/-- The ASCII character that a character stands for in a number: digits of all scripts are digits, and blanks
beyond ASCII are spaces. -/
def asciiForm (c : Char) : Char :=
  match zeros.find? fun z => z ≤ c.toNat && c.toNat < z + 10 with
  | some z => Char.ofNat (c.toNat - z + '0'.toNat)
  | none => if isBlank c && 0x7F ≤ c.toNat then ' ' else c

/-- What may stand around a number; the ASCII separators U+001C to U+001F may not. -/
def isPadding (c : Char) : Bool :=
  c == ' ' || (0x09 ≤ c.toNat && c.toNat ≤ 0x0D)

/-- A number as people write it, in ASCII and without what stands around it. -/
def trimmed (t : Text) : Text :=
  Text.trimEnd isPadding ((t.map asciiForm).dropWhile isPadding)

def signed (t : Text) : Bool × Text :=
  match t with
  | '-' :: t => (true, t)
  | '+' :: t => (false, t)
  | _ => (false, t)

/-- The letters that may stand behind a leading zero to tell the base. -/
def marks (base : Nat) : List Char :=
  match base with
  | 2 => ['b', 'B']
  | 8 => ['o', 'O']
  | 16 => ['x', 'X']
  | _ => []

def withoutMark (base : Nat) (t : Text) : Text :=
  match t with
  | '0' :: c :: ds => if (marks base).contains c then ds else t
  | _ => t

/-- Decimal digits beyond this number are not converted. -/
def maxDigits : Nat := 4300

/-- An integer as people write it: blanks around it, a sign, a mark of the base, decimal digits in groups. -/
def integer? (base : Nat) (t : Text) : Option Int := do
  let (negative, t) := signed (trimmed t)
  let ds ← withoutGroups? (withoutMark base t)
  if base = 10 ∧ maxDigits < ds.length then none
  else
    let n ← natural? base ds
    return if negative then -(n : Int) else n

/-- A number as people write it: blanks around it, a sign, digits in groups, an exponent, or one of the words
for infinity and for no number. -/
def float? (t : Text) : Option Float := do
  let (negative, t) := signed (trimmed t)
  let word := String.ofList (t.map Char.toLower)
  let x ←
    if word = "inf" || word = "infinity" then some (1.0 / 0.0 : Float)
    else if word = "nan" then some (0.0 / 0.0)
    else do
      let (mantissa, exponent) ← decimal? (← withoutGroups? t)
      pure (toFloat mantissa exponent)
  return if negative then -x else x

/-- The interval of reals that round to a positive double, over the denominator `den`. -/
structure Interval where
  low : Nat
  value : Nat
  high : Nat
  den : Nat
  closed : Bool

namespace Interval

/-- The interval around `m * 2 ^ e`; just above a power of two the lower half is half as wide. -/
def around (m : Nat) (e : Int) : Interval :=
  let low := if m = twoTo 52 ∧ e > -1074 then 4 * m - 1 else 4 * m - 2
  let scale := twoTo (e - 2).toNat
  { low := low * scale, value := 4 * m * scale, high := (4 * m + 2) * scale
    den := twoTo (2 - e).toNat, closed := m % 2 == 0 }

def holds (i : Interval) (n : Nat) (s : Int) : Bool :=
  let x := n * tenTo s.toNat * i.den
  let unit := tenTo (-s).toNat
  if i.closed then i.low * unit ≤ x && x ≤ i.high * unit else i.low * unit < x && x < i.high * unit

/-- The greatest `t` with `10 ^ t` at most the value. -/
def magnitude (i : Interval) : Int :=
  let whole := i.value / i.den
  if whole ≠ 0 then (Nat.toDigits 10 whole).length - 1
  else search 400 1
where
  search : Nat → Nat → Int
    | 0, j => -j
    | fuel + 1, j => if i.den ≤ i.value * tenTo j then -j else search fuel (j + 1)

/-- The number of `count` digits nearest to the value that lies in the interval, with its power of ten. -/
def digits? (i : Interval) (count : Nat) : Option (Nat × Int) :=
  let s := i.magnitude - count + 1
  let unit := tenTo (-s).toNat
  let step := tenTo s.toNat * i.den
  let n := i.value * unit / step
  let rest := i.value * unit % step
  let below := i.holds n s
  let above := i.holds (n + 1) s
  if below && above then
    some (if 2 * rest < step || (2 * rest = step && n % 2 = 0) then n else n + 1, s)
  else if below then some (n, s)
  else if above then some (n + 1, s)
  else none

end Interval

/-- The fewest digits that read back as the double, without zeros at the end, and their power of ten. -/
def shortest (m : Nat) (e : Int) : Nat × Int :=
  let i := Interval.around m e
  (((List.range 17).findSome? fun k => i.digits? (k + 1))).getD (m, 0)

/-- Positional between a ten-thousandth and 10 ^ 16, otherwise with an exponent of at least two digits; a whole
number shows a zero behind its point. -/
def textOfFloat (x : Float) : String :=
  let bits := x.toBits.toNat
  match Scalar.floatParts x with
  | none => if x.isNaN then "nan" else if bits < twoTo 63 then "inf" else "-inf"
  | some (m, e) =>
    let sign := if bits < twoTo 63 then "" else "-"
    if m = 0 then sign ++ "0.0"
    else
      let (n, s) := shortest m.natAbs e
      let all := Nat.toDigits 10 n
      let point : Int := all.length + s
      let ds := Text.trimEnd (· == '0') all
      let zeros (k : Int) : Text := List.replicate k.toNat '0'
      if -4 < point ∧ point ≤ 16 then
        let whole := if point ≤ 0 then ['0'] else (ds ++ zeros (point - ds.length)).take point.toNat
        let part := if point ≤ 0 then zeros (-point) ++ ds else ds.drop point.toNat
        sign ++ String.ofList (whole ++ '.' :: if part.isEmpty then ['0'] else part)
      else
        let power := point - 1
        let mark := if power < 0 then "e-" else "e+"
        let width := (Nat.toDigits 10 power.natAbs)
        let exponent := if width.length < 2 then '0' :: width else width
        let part := ds.drop 1
        sign ++ String.ofList (ds.take 1 ++ if part.isEmpty then [] else '.' :: part) ++ mark ++
          String.ofList exponent

end ComponentFormat.Number
