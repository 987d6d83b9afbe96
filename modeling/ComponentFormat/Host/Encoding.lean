import ComponentFormat.Process.Bytes

/-! # The encoding of a body

A body is in UTF-8 unless zero bytes among its first four show that its units are wider. -/
namespace ComponentFormat.Host

inductive Encoding where
  | utf8
  | utf16 (bigEndian : Bool)
  | utf32 (bigEndian : Bool)
  deriving DecidableEq, Repr

inductive EncodingError where
  /-- The bytes stop inside a unit, or a unit is beyond all characters. -/
  | broken
  /-- A surrogate stands without its partner. -/
  | loneSurrogate
  deriving DecidableEq, Repr

namespace Encoding

def detect : Bytes → Encoding
  | 0 :: 0 :: _ :: _ :: _ => .utf32 true
  | 0 :: _ :: _ :: _ :: _ | [0, _] => .utf16 true
  | _ :: 0 :: 0 :: 0 :: _ => .utf32 false
  | _ :: 0 :: _ :: _ :: _ | [_, 0] => .utf16 false
  | _ => .utf8

def unit (bigEndian : Bool) (b : Bytes) : Nat :=
  (if bigEndian then b else b.reverse).foldl (fun n x => n * 256 + x.toNat) 0

def units (size : Nat) (bigEndian : Bool) : Nat → Bytes → Except EncodingError (List Nat)
  | 0, _ | _ + 1, [] => .ok []
  | fuel + 1, b =>
    if b.length < size then .error .broken
    else (units size bigEndian fuel (b.drop size)).map (unit bigEndian (b.take size) :: ·)

def isHigh (n : Nat) : Bool := 0xD800 ≤ n && n < 0xDC00

def isLow (n : Nat) : Bool := 0xDC00 ≤ n && n < 0xE000

/-- A high and a low surrogate are one character. -/
def ofUnits16 : List Nat → Except EncodingError Text
  | [] => .ok []
  | high :: low :: more =>
    if isHigh high && isLow low then
      (ofUnits16 more).map (Char.ofNat (0x10000 + (high - 0xD800) * 0x400 + (low - 0xDC00)) :: ·)
    else if isHigh high || isLow high then .error .loneSurrogate
    else (ofUnits16 (low :: more)).map (Char.ofNat high :: ·)
  | [n] => if isHigh n || isLow n then .error .loneSurrogate else .ok [Char.ofNat n]

def ofUnit32 (n : Nat) : Except EncodingError Char :=
  if 0x10FFFF < n then .error .broken
  else if isHigh n || isLow n then .error .loneSurrogate
  else .ok (Char.ofNat n)

def decode (b : Bytes) : Encoding → Except EncodingError Text
  | utf8 => .ok (Bytes.toText b)
  | utf16 bigEndian => do ofUnits16 (← units 2 bigEndian b.length b)
  | utf32 bigEndian => do (← units 4 bigEndian b.length b).mapM ofUnit32

example : detect [0, 0x7B, 0, 0x7D] = .utf16 true := rfl
example : (decode [0x7B, 0, 0x7D, 0] (.utf16 false)).toOption = some ['\x7b', '\x7d'] := by decide

end Encoding

end ComponentFormat.Host
