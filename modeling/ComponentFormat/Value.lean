import ComponentFormat.Keyed

/-! # Configuration values

What a configuration file, an environment variable or a request can supply. Keys of a mapping are scalars, and
two numbers that are equal are the same key whatever their kind.
-/
namespace ComponentFormat

inductive Scalar where
  | null
  | bool (b : Bool)
  | int (n : Int)
  | float (x : Float)
  | str (s : String)
  | date (year month day : Nat)
  /-- A date with a time of day, in its printed form. -/
  | moment (s : String)
  deriving Inhabited

def twoTo (n : Nat) : Nat := Nat.pow 2 n

namespace Scalar

/-- A finite number with its sign as mantissa and power of two. -/
def floatParts (x : Float) : Option (Int × Int) :=
  let bits : Nat := x.toBits.toNat
  let sign : Int := if bits < twoTo 63 then 1 else -1
  let exponent : Nat := bits / twoTo 52 % 2048
  let fraction : Nat := bits % twoTo 52
  if exponent = 2047 then none
  else if exponent = 0 then some (sign * (fraction : Int), -1074)
  else some (sign * ((twoTo 52 + fraction : Nat) : Int), (exponent : Int) - 1075)

/-- The integer that a number is equal to. -/
def integral? : Scalar → Option Int
  | bool b => some (if b then 1 else 0)
  | int n => some n
  | float x =>
    match floatParts x with
    | none => none
    | some (m, e) =>
      let unit : Int := twoTo e.natAbs
      if 0 ≤ e then some (m * unit) else if m % unit = 0 then some (m / unit) else none
  | _ => none

def same : Scalar → Scalar → Bool
  | null, null => true
  | str a, str b => a == b
  | date y m d, date y' m' d' => y == y' && m == m' && d == d'
  | moment a, moment b => a == b
  | float x, float y => x.toBits == y.toBits || x == y
  | a, b =>
    match a.integral?, b.integral? with
    | some m, some n => m == n
    | _, _ => false

instance : BEq Scalar := ⟨same⟩

end Scalar

inductive Value where
  | scalar (s : Scalar)
  | list (items : List Value)
  | map (entries : List (Scalar × Value))
  deriving Inhabited

/-- Settings of one source in the order given. -/
abbrev Layer := List (Scalar × Value)

namespace Value

def ofBool (b : Bool) : Value := .scalar (.bool b)

def ofNat (n : Nat) : Value := .scalar (.int n)

def ofString (s : String) : Value := .scalar (.str s)

mutual

def isFinite : Value → Bool
  | .scalar (.float x) => x.isFinite
  | .scalar _ => true
  | .list items => areFinite items
  | .map entries => haveFinite entries

def areFinite : List Value → Bool
  | [] => true
  | v :: vs => v.isFinite && areFinite vs

def haveFinite : List (Scalar × Value) → Bool
  | [] => true
  | (_, v) :: es => v.isFinite && haveFinite es

end

def kindName : Value → String
  | .scalar .null => "NoneType"
  | .scalar (.bool _) => "bool"
  | .scalar (.int _) => "int"
  | .scalar (.float _) => "float"
  | .scalar (.str _) => "str"
  | .scalar (.date ..) => "date"
  | .scalar (.moment _) => "datetime"
  | .list _ => "list"
  | .map _ => "dict"

def asFlag? : Value → Option Bool
  | .scalar (.bool b) => some b
  | _ => none

/-- A count is an integer from zero on. -/
def asCount? : Value → Option Nat
  | .scalar (.int (.ofNat n)) => some n
  | _ => none

def asWord? : Value → Option String
  | .scalar (.str s) => some s
  | _ => none

end Value

end ComponentFormat
