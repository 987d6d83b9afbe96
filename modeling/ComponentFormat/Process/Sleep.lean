import ComponentFormat.Number
import ComponentFormat.Process.Run
import ComponentFormat.Process.Switches

/-! # Waiting

Every argument is a number of seconds, or of minutes, hours or days when it ends with their letter; the times add
up.
-/
namespace ComponentFormat.Sleep

def switches : List Switch :=
  [⟨'h', false, ["help"], .nothing⟩, ⟨'V', false, ["version"], .nothing⟩]

def unit? : Octets → Option Nat
  | [] | ['s'] => some 1000
  | ['m'] => some 60000
  | ['h'] => some 3600000
  | ['d'] => some 86400000
  | _ => none

def isHexDigit (c : Char) : Bool := (Number.digit? 16 c).isSome

def hexadecimal? : Octets → Option (Nat × Octets)
  | '0' :: x :: t =>
    if x = 'x' ∨ x = 'X' then
      (Number.natural? 16 (t.takeWhile isHexDigit)).map fun n => (n, t.dropWhile isHexDigit)
    else none
  | _ => none

/-- The part of a text that reads as a number without its sign, and what follows. -/
def number? (t : Octets) : Option ((Nat × Int) × Octets) :=
  match hexadecimal? t with
  | some (n, rest) => some ((n, 0), rest)
  | none =>
  let whole := t.takeWhile isAsciiDigit
  let t := t.dropWhile isAsciiDigit
  let (part, t) := match t with
    | '.' :: u => (u.takeWhile isAsciiDigit, u.dropWhile isAsciiDigit)
    | _ => ([], t)
  let (exponent, t) := match t with
    | e :: u =>
      let (negative, ds) := Number.signed u
      match if e = 'e' ∨ e = 'E' then Number.natural? 10 (ds.takeWhile isAsciiDigit) else none with
      | some n => (if negative then -(n : Int) else n, ds.dropWhile isAsciiDigit)
      | none => (0, t)
    | [] => (0, t)
  (Number.natural? 10 (whole ++ part)).map fun n => ((n, exponent - part.length), t)

def duration? (o : Octets) : Option Nat :=
  let (negative, t) := Number.signed (o.dropWhile Number.isPadding)
  let lower := t.map Char.toLower
  match (Text.after? "infinity".toList lower).or (Text.after? "inf".toList lower) with
  | some rest => if negative then none else (unit? rest).map fun _ => Run.forever
  | none => do
    let ((n, e), rest) ← number? t
    let unit ← unit? rest
    if negative && n ≠ 0 then none
    else if 20 < e + ((Nat.toDigits 10 n).length : Int) then some (if n = 0 then 0 else Run.forever)
    else if e < -400 then some 0
    else some (n * unit * Number.tenTo e.toNat / Number.tenTo (-e).toNat)

def run : Program := fun args s =>
  match Switches.read switches true args with
  | .error e => .misused e.message s
  | .ok found =>
    if !found.found.isEmpty then .ends 0 s
    else if found.others.isEmpty then .misused "missing operand".toList s
    else
      let bad := found.others.filter fun a => (duration? a).isNone
      if bad.isEmpty then
        { Run.ends 0 s with time := (found.others.filterMap duration?).foldl Nat.add 0 }
      else
        let reports := bad.map fun a => "invalid time interval ".toList ++ Octets.quote a
        .misused (Text.join ("\n".toList ++ s.name ++ ": ".toList) reports) s

end ComponentFormat.Sleep
