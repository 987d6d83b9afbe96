import ComponentFormat.Number
import ComponentFormat.Process.Octets

/-! # Integers at the front of a text -/
namespace ComponentFormat.Shell.Integer

/-- The digits of a base at the front as a number, and what follows; none if there are no digits. -/
def digits? (base : Nat) (t : Octets) : Option (Nat × Octets) :=
  let ds := t.takeWhile fun c => (Number.digit? base c).isSome
  (Number.natural? base ds).map fun n => (n, t.drop ds.length)

/-- A number that tells its base: hexadecimal behind `0x`, octal behind another zero. -/
def marked? (t : Octets) : Option (Nat × Octets) :=
  match t with
  | '0' :: x :: rest =>
    match if x == 'x' || x == 'X' then digits? 16 rest else none with
    | some found => some found
    | none => digits? 8 t
  | _ => digits? 10 t

/-- An integer behind blanks with its sign, and what follows; the base is ten, or told by the number. -/
def scan? (tellsBase : Bool) (t : Octets) : Option (Int × Octets) :=
  let (negative, t) := Number.signed (t.dropWhile Number.isPadding)
  (if tellsBase then marked? t else digits? 10 t).map fun p => (if negative then -(p.1 : Int) else p.1, p.2)

def isSmall (n : Int) : Bool := -(Int.ofNat (twoTo 63)) ≤ n && n < Int.ofNat (twoTo 63)

/-- The integer of 64 bits that a text is, blanks around it. -/
def whole? (tellsBase : Bool) (t : Octets) : Option Int :=
  match scan? tellsBase t with
  | some (n, rest) => if rest.all Number.isPadding && isSmall n then some n else none
  | none => if tellsBase && t.all Number.isPadding then some 0 else none

def clamped (n : Int) : Int :=
  if n < -(Int.ofNat (twoTo 63)) then -(Int.ofNat (twoTo 63)) else if isSmall n then n else Int.ofNat (twoTo 63 - 1)

example : whole? false " 12 ".toList = some 12 := by decide +kernel
example : whole? true "0x1F".toList = some 31 := by decide +kernel
example : whole? true "08".toList = none := by decide +kernel

end ComponentFormat.Shell.Integer
