import ComponentFormat.Number

/-! # JSON texts

A JSON text is read into a value. Objects keep the order of their members, and a repeated name keeps its first
place and takes its last value; a number is an integer unless it has a point or an exponent. Integers have a limit
on their digits, and lists and objects on how deep they stand inside each other.
-/
namespace ComponentFormat.Json

inductive Fault where
  | malformed
  | beyondLimits
  deriving DecidableEq, Repr

def isSpace (c : Char) : Bool :=
  c == ' ' || c == '\t' || c == '\n' || c == '\r'

def skipSpace (t : Text) : Text :=
  t.dropWhile isSpace

def readUnit (t : Text) : Except Fault (Nat × Text) :=
  match Number.natural? 16 (t.take 4) with
  | some n => if (t.take 4).length < 4 then .error .malformed else .ok (n, t.drop 4)
  | none => .error .malformed

/-- The character of an escape, the text being what stands behind the backslash. A high and a low surrogate are
one character; one of them alone is none. -/
def readEscape : Text → Except Fault (Char × Text)
  | '"' :: t => .ok ('"', t)
  | '\\' :: t => .ok ('\\', t)
  | '/' :: t => .ok ('/', t)
  | 'b' :: t => .ok ('\x08', t)
  | 'f' :: t => .ok ('\x0c', t)
  | 'n' :: t => .ok ('\n', t)
  | 'r' :: t => .ok ('\r', t)
  | 't' :: t => .ok ('\t', t)
  | 'u' :: t => do
    let (high, t) ← readUnit t
    if 0xD800 ≤ high ∧ high < 0xDC00 then
      match t with
      | '\\' :: 'u' :: t => do
        let (low, t) ← readUnit t
        if 0xDC00 ≤ low ∧ low < 0xE000 then
          return (Char.ofNat (0x10000 + (high - 0xD800) * 0x400 + (low - 0xDC00)), t)
        else throw .malformed
      | _ => throw .malformed
    else if 0xDC00 ≤ high ∧ high < 0xE000 then throw .malformed
    else return (Char.ofNat high, t)
  | _ => .error .malformed

/-- The text up to the closing quote, and what follows it. Control characters must be escaped. -/
def readString : Nat → Text → Except Fault (Text × Text)
  | 0, _ => .error .malformed
  | _ + 1, [] => .error .malformed
  | _ + 1, '"' :: t => .ok ([], t)
  | fuel + 1, '\\' :: t => do
    let (c, t) ← readEscape t
    let (s, t) ← readString fuel t
    return (c :: s, t)
  | fuel + 1, c :: t =>
    if c.toNat < 0x20 then .error .malformed
    else (readString fuel t).map fun p => (c :: p.1, p.2)

/-- The exponent of a number if one is at the front. -/
def readExponent (t : Text) : Option Int × Text :=
  match t with
  | e :: u =>
    if e == 'e' || e == 'E' then
      let (negative, ds) := Number.signed u
      match Number.natural? 10 (ds.takeWhile isAsciiDigit) with
      | some n => (some (if negative then -(n : Int) else n), ds.dropWhile isAsciiDigit)
      | none => (none, t)
    else (none, t)
  | [] => (none, t)

/-- The number that is the longest well-formed front of the text, and what follows. -/
def readNumber (t : Text) : Except Fault (Value × Text) := do
  let (negative, t) :=
    match t with
    | '-' :: t => (true, t)
    | _ => (false, t)
  let whole := if t.head? == some '0' then ['0'] else t.takeWhile isAsciiDigit
  let t := t.drop whole.length
  let (part, t) :=
    match t with
    | '.' :: u => if (u.takeWhile isAsciiDigit).isEmpty then ([], t)
      else (u.takeWhile isAsciiDigit, u.dropWhile isAsciiDigit)
    | _ => ([], t)
  let (exponent, t) := readExponent t
  match Number.natural? 10 whole with
  | none => throw .malformed
  | some n =>
    if part.isEmpty && exponent.isNone then
      if Number.maxDigits < whole.length then throw .beyondLimits
      else return (.scalar (.int (if negative then -(n : Int) else n)), t)
    else
      let mantissa := (Number.natural? 10 (whole ++ part)).getD 0
      let x := Number.toFloat mantissa (exponent.getD 0 - (part.length : Int))
      return (.scalar (.float (if negative then -x else x)), t)

/-- The words of the format beside numbers, strings, lists and objects. -/
def words : List (Text × Scalar) :=
  [("null".toList, .null), ("true".toList, .bool true), ("false".toList, .bool false),
    ("NaN".toList, .float (0.0 / 0.0)), ("Infinity".toList, .float (1.0 / 0.0)),
    ("-Infinity".toList, .float (-1.0 / 0.0))]

def readWord? (t : Text) : Option (Value × Text) :=
  words.findSome? fun w => (Text.after? w.1 t).map (Value.scalar w.2, ·)

/-- How deep lists and objects may stand inside each other. -/
def maxDepth : Nat := 950

mutual

/-- The value at the front, with `room` levels left for lists and objects. Each step takes one of the `fuel`. -/
def readValue : Nat → Nat → Text → Except Fault (Value × Text)
  | 0, _, _ => .error .malformed
  | fuel + 1, room, t =>
    match skipSpace t with
    | '"' :: t => (readString (t.length + 1) t).map fun p => (Value.ofString (String.ofList p.1), p.2)
    | '[' :: t =>
      match room, skipSpace t with
      | 0, _ => .error .beyondLimits
      | _ + 1, ']' :: t => .ok (.list [], t)
      | room + 1, t => (readItems fuel room t).map fun p => (Value.list p.1, p.2)
    | '\x7b' :: t =>
      match room, skipSpace t with
      | 0, _ => .error .beyondLimits
      | _ + 1, '\x7d' :: t => .ok (.map [], t)
      | room + 1, t => (readMembers fuel room t).map fun p => (Value.map (Keyed.ofPairs p.1), p.2)
    | t =>
      match readWord? t with
      | some r => .ok r
      | none => readNumber t

def readItems : Nat → Nat → Text → Except Fault (List Value × Text)
  | 0, _, _ => .error .malformed
  | fuel + 1, room, t => do
    let (v, t) ← readValue fuel room t
    match skipSpace t with
    | ',' :: t => (readItems fuel room t).map fun p => (v :: p.1, p.2)
    | ']' :: t => return ([v], t)
    | _ => throw .malformed

def readMembers : Nat → Nat → Text → Except Fault (List (Scalar × Value) × Text)
  | 0, _, _ => .error .malformed
  | fuel + 1, room, t =>
    match skipSpace t with
    | '"' :: t => do
      let (name, t) ← readString (t.length + 1) t
      match skipSpace t with
      | ':' :: t => do
        let (v, t) ← readValue fuel room t
        match skipSpace t with
        | ',' :: t =>
          (readMembers fuel room t).map fun p => ((.str (String.ofList name), v) :: p.1, p.2)
        | '\x7d' :: t => return ([(.str (String.ofList name), v)], t)
        | _ => throw .malformed
      | _ => throw .malformed
    | _ => .error .malformed

end

def read (t : Text) : Except Fault Value := do
  let (v, rest) ← readValue (2 * t.length + 2) maxDepth t
  if (skipSpace rest).isEmpty then return v else throw .malformed

end ComponentFormat.Json
