import ComponentFormat.Number
import ComponentFormat.Yaml.Cursor

/-! # What a scalar is

An untagged plain scalar is a truth value, a number, a date or nothing when it is written like one, and a text
otherwise. The forms are those of version 1.1 of the format: `yes` and `off` are truth values, a leading zero is
octal, colons divide sixties, and an exponent needs a point before it and a sign.
-/
namespace ComponentFormat.Yaml

inductive Tag where
  | null
  | bool
  | int
  | float
  | str
  | timestamp
  /-- The key that takes over the entries of another mapping. -/
  | merge
  /-- The default value of a mapping. -/
  | defaultValue
  | seq
  | map
  | unknown
  deriving DecidableEq, Repr

namespace Tag

def known : List (String × Tag) :=
  [("null", .null), ("bool", .bool), ("int", .int), ("float", .float), ("str", .str),
    ("timestamp", .timestamp), ("merge", .merge), ("value", .defaultValue), ("seq", .seq), ("map", .map)]

def ofName (name : Text) : Tag :=
  match Text.after? "tag:yaml.org,2002:".toList name with
  | none => .unknown
  | some short =>
    match known.find? (·.1.toList == short) with
    | some (_, t) => t
    | none => .unknown

end Tag

namespace Plain

def trueWords : List String := ["yes", "Yes", "YES", "true", "True", "TRUE", "on", "On", "ON"]

def falseWords : List String := ["no", "No", "NO", "false", "False", "FALSE", "off", "Off", "OFF"]

def nullWords : List String := ["", "~", "null", "Null", "NULL"]

def isOneOf (words : List String) (t : Text) : Bool :=
  words.any (·.toList == t)

def unsigned (t : Text) : Text :=
  match t with
  | '+' :: t | '-' :: t => t
  | _ => t

def isDigitOrLine (c : Char) : Bool := isAsciiDigit c || c == '_'

/-- Digits and low lines with a digit in front. -/
def isGrouped (t : Text) : Bool :=
  (t.head?.any isAsciiDigit) && t.all isDigitOrLine

/-- Nothing to 59 in one or two digits. -/
def isSixtieth : Text → Bool
  | [a] => isAsciiDigit a
  | [a, b] => '0' ≤ a && a ≤ '5' && isAsciiDigit b
  | _ => false

def isInt (t : Text) : Bool :=
  match unsigned t with
  | [] => false
  | ['0'] => true
  | '0' :: 'b' :: ds => !ds.isEmpty && ds.all fun c => c == '0' || c == '1' || c == '_'
  | '0' :: 'x' :: ds => !ds.isEmpty && ds.all fun c => (Number.digit? 16 c).isSome || c == '_'
  | '0' :: ds => ds.all fun c => ('0' ≤ c && c ≤ '7') || c == '_'
  | ds =>
    match Text.splitAt (· == ':') ds with
    | first :: parts => isGrouped first && parts.all isSixtieth
    | [] => false

/-- An exponent with its sign, or nothing. -/
def isExponent : Text → Bool
  | [] => true
  | e :: s :: ds => (e == 'e' || e == 'E') && (s == '-' || s == '+') && !ds.isEmpty && ds.all isAsciiDigit
  | _ => false

def isFloat (t : Text) : Bool :=
  let u := unsigned t
  let whole := u.takeWhile (· != '.')
  match u.dropWhile (· != '.') with
  | '.' :: part =>
    let mantissa := part.takeWhile isDigitOrLine
    let exponent := part.dropWhile isDigitOrLine
    if whole.isEmpty then
      isOneOf ["inf", "Inf", "INF"] part ||
        (u.length == t.length &&
          (isOneOf ["nan", "NaN", "NAN"] part || (isGrouped mantissa && isExponent exponent)))
    else
      match Text.splitAt (· == ':') whole with
      | [_] => isGrouped whole && isExponent exponent
      | first :: parts => isGrouped first && parts.all isSixtieth && exponent.isEmpty
      | [] => false
  | _ => false

structure Timestamp where
  year : Nat
  month : Nat
  day : Nat
  /-- Hour, minute, second and the digits behind the point. -/
  time : Option (Nat × Nat × Nat × Text)
  /-- The offset of the clock in minutes. -/
  zone : Option Int

def upToTwo? (t : Text) : Option (Nat × Text) :=
  let ds := (t.take 2).takeWhile isAsciiDigit
  (Number.natural? 10 ds).map (·, t.drop ds.length)

def exactly? (n : Nat) (t : Text) : Option (Nat × Text) :=
  let ds := t.take n
  if ds.length = n ∧ ds.all isAsciiDigit then (Number.natural? 10 ds).map (·, t.drop n) else none

def expect? (c : Char) : Text → Option Text
  | d :: t => if d = c then some t else none
  | [] => none

def isTabOrSpace (c : Char) : Bool := c == ' ' || c == '\t'

def zone? (t : Text) : Option (Option Int) :=
  match t.dropWhile isTabOrSpace with
  | [] => if t.isEmpty then some none else none
  | ['Z'] => some (some 0)
  | s :: u => do
    let sign : Int ← if s = '-' then some (-1) else if s = '+' then some 1 else none
    let (hours, u) ← upToTwo? u
    match u with
    | [] => some (some (sign * (60 * hours : Nat)))
    | ':' :: u => do
      let (minutes, u) ← exactly? 2 u
      if u.isEmpty then some (some (sign * (60 * hours + minutes : Nat))) else none
    | _ => none

def timestamp? (t : Text) : Option Timestamp := do
  let (year, u) ← exactly? 4 t
  let u ← expect? '-' u
  let (month, u') ← upToTwo? u
  let u' ← expect? '-' u'
  let (day, rest) ← upToTwo? u'
  if rest.isEmpty then some ⟨year, month, day, none, none⟩
  else
    let rest ←
      match rest with
      | 'T' :: r | 't' :: r => some r
      | c :: _ => if isTabOrSpace c then some (rest.dropWhile isTabOrSpace) else none
      | [] => none
    let (hour, r) ← upToTwo? rest
    let (minute, r) ← exactly? 2 (← expect? ':' r)
    let (second, r) ← exactly? 2 (← expect? ':' r)
    let (fraction, r) :=
      match r with
      | '.' :: r => (r.takeWhile isAsciiDigit, r.dropWhile isAsciiDigit)
      | _ => ([], r)
    let zone ← zone? r
    some ⟨year, month, day, some (hour, minute, second, fraction), zone⟩

/-- Without a tag, a date alone has all its digits. -/
def isTimestamp (t : Text) : Bool :=
  (timestamp? t).any fun s => s.time.isSome || t.length == 10

/-- A line feed at the end does not count, unless it is all. -/
def withoutLineFeed (t : Text) : Text :=
  if t.getLast? = some '\n' ∧ t ≠ ['\n'] then t.dropLast else t

def tag (t : Text) : Tag :=
  let t := withoutLineFeed t
  if isOneOf trueWords t || isOneOf falseWords t then .bool
  else if isFloat t then .float
  else if isInt t then .int
  else if t = ['<', '<'] then .merge
  else if isOneOf nullWords t then .null
  else if isTimestamp t then .timestamp
  else if t = ['='] then .defaultValue
  else .str

end Plain

/-! ## Values of tagged scalars -/

namespace Tagged

/-- A number without its low lines: whether a minus stands in front of it, and what follows the sign. -/
def signed (t : Text) : Except Unconvertible (Bool × Text) :=
  match t.filter (· != '_') with
  | [] => .error .empty
  | t => .ok (t.head? == some '-', Plain.unsigned t)

def inRange {α : Type} (x : Option α) : Except Unconvertible α :=
  match x with
  | some x => .ok x
  | none => .error .outOfRange

def int (t : Text) : Except Unconvertible Int := do
  let (negative, u) ← signed t
  let n ←
    match u with
    | [] => throw .empty
    | '0' :: 'b' :: ds => inRange (Number.integer? 2 ds)
    | '0' :: 'x' :: ds => inRange (Number.integer? 16 ds)
    | '0' :: _ => inRange (Number.integer? 8 u)
    | _ =>
      let parts ← inRange ((Text.splitAt (· == ':') u).mapM (Number.integer? 10))
      pure (parts.foldl (fun (n : Int) part => n * 60 + part) 0)
  return if negative then -n else n

/-- The number of places of a number to the base 60 whose weight is a double. -/
def maxPlaces : Nat := 174

def float (t : Text) : Except Unconvertible Float := do
  let (negative, u) ← signed (t.map Char.toLower)
  let x ←
    if u = ".inf".toList then pure (1.0 / 0.0)
    else if u = ".nan".toList then pure (0.0 / 0.0)
    else if u.any (· == ':') then do
      let parts ← inRange ((Text.splitAt (· == ':') u).mapM Number.float?)
      if maxPlaces < parts.length then throw .tooLarge
      let sum := parts.reverse.foldl
        (fun (s : Float × Nat) part => (s.1 + part * Float.ofNat s.2, s.2 * 60)) (0.0, 1)
      pure sum.1
    else inRange (Number.float? u)
  return if negative then -x else x

def bool (t : Text) : Except Unconvertible Bool :=
  let word := t.map Char.toLower
  if Plain.isOneOf Plain.trueWords word then .ok true
  else if Plain.isOneOf Plain.falseWords word then .ok false
  else .error .unknownWord

def isLeap (year : Nat) : Bool :=
  year % 4 == 0 && (year % 100 != 0 || year % 400 == 0)

def daysIn (year month : Nat) : Nat :=
  if month = 2 then (if isLeap year then 29 else 28)
  else if month = 4 || month = 6 || month = 9 || month = 11 then 30
  else 31

def padded (width n : Nat) : String :=
  let ds := Nat.toDigits 10 n
  String.ofList (List.replicate (width - ds.length) '0' ++ ds)

def zoneText (minutes : Int) : String :=
  let n := minutes.natAbs
  (if minutes < 0 then "-" else "+") ++ padded 2 (n / 60) ++ ":" ++ padded 2 (n % 60)

/-- A date of the calendar, with a time of the clock if one is given. -/
def moment? (s : Plain.Timestamp) : Option Scalar :=
  if s.year = 0 || s.month = 0 || 12 < s.month || s.day = 0 || daysIn s.year s.month < s.day then none
  else match s.time with
    | none => some (.date s.year s.month s.day)
    | some (hour, minute, second, fraction) =>
      if 23 < hour || 59 < minute || 59 < second || (s.zone.any fun z => 1440 ≤ z.natAbs) then none
      else
        let micro := (fraction ++ List.replicate 6 '0').take 6
        let clock := padded 2 hour ++ ":" ++ padded 2 minute ++ ":" ++ padded 2 second
        let day := padded 4 s.year ++ "-" ++ padded 2 s.month ++ "-" ++ padded 2 s.day
        let part := if micro.all (· == '0') then "" else "." ++ String.ofList micro
        some (.moment (day ++ "T" ++ clock ++ part ++ (s.zone.map zoneText).getD ""))

def timestamp (t : Text) : Except Unconvertible Scalar :=
  match Plain.timestamp? (Plain.withoutLineFeed t) with
  | none => .error .notDate
  | some s => inRange (moment? s)

/-- The value of a scalar with a tag; a collection's tag or an unknown one is no scalar's. -/
def value (tag : Tag) (t : Text) : Except Fault Scalar :=
  let convert (s : Except Unconvertible Scalar) : Except Fault Scalar := s.mapError .unconvertible
  match tag with
  | .null => .ok .null
  | .str => .ok (.str (String.ofList t))
  | .bool => convert ((bool t).map .bool)
  | .int => convert ((int t).map .int)
  | .float => convert ((float t).map .float)
  | .timestamp => convert (timestamp t)
  | _ => .error .malformed

end Tagged

end ComponentFormat.Yaml
