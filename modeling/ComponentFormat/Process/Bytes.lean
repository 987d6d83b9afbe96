import ComponentFormat.Text.Basic

/-! # Bytes that programs exchange

Bytes are read as UTF-8. Where they are no text, the shape of a sequence tells how many bytes go wrong
together: those that some character starts with.
-/
namespace ComponentFormat

abbrev Bytes := List UInt8

namespace Bytes

def ofText (t : Text) : Bytes :=
  (String.ofList t).toUTF8.toList

def ofString (s : String) : Bytes := s.toUTF8.toList

/-- What bytes start with: a character, or a number of bytes that belong to none. -/
inductive Front where
  | char (c : Char)
  | stray (n : Nat)
  deriving DecidableEq, Repr

/-- How many bytes follow the first one of a character, and the range of the second. -/
def shape? (lead : Nat) : Option (Nat × Nat × Nat) :=
  if 0xC2 ≤ lead ∧ lead ≤ 0xDF then some (1, 0x80, 0xBF)
  else if lead = 0xE0 then some (2, 0xA0, 0xBF)
  else if lead = 0xED then some (2, 0x80, 0x9F)
  else if 0xE1 ≤ lead ∧ lead ≤ 0xEF then some (2, 0x80, 0xBF)
  else if lead = 0xF0 then some (3, 0x90, 0xBF)
  else if lead = 0xF4 then some (3, 0x80, 0x8F)
  else if 0xF1 ≤ lead ∧ lead ≤ 0xF3 then some (3, 0x80, 0xBF)
  else none

/-- The bytes at the front that can follow, at most `n`, the first within the given range. -/
def followers (low high : Nat) : Nat → Bytes → List Nat
  | 0, _ | _ + 1, [] => []
  | n + 1, b :: t =>
    if low ≤ b.toNat ∧ b.toNat ≤ high then b.toNat :: followers 0x80 0xBF n t else []

def front (b : UInt8) (t : Bytes) : Front :=
  let lead := b.toNat
  if lead < 0x80 then .char (Char.ofNat lead)
  else match shape? lead with
    | none => .stray 1
    | some (n, low, high) =>
      let more := followers low high n t
      let mask := if n = 1 then 0x20 else if n = 2 then 0x10 else 0x08
      if more.length = n then .char (Char.ofNat (more.foldl (fun v x => v * 64 + x % 64) (lead % mask)))
      else .stray (more.length + 1)

def Front.size : Front → Nat
  | char c => c.utf8Size
  | stray n => n

def fronts : Nat → Bytes → List Front
  | 0, _ | _ + 1, [] => []
  | fuel + 1, b :: t =>
    let f := front b t
    f :: fronts fuel ((b :: t).drop f.size)

/-- The text in UTF-8, with a replacement character where the bytes are none. -/
def toText (b : Bytes) : Text :=
  (fronts b.length b).map fun f =>
    match f with
    | .char c => c
    | .stray _ => '\ufffd'

def toText? (b : Bytes) : Option Text :=
  (String.fromUTF8? (ByteArray.mk b.toArray)).map String.toList

end Bytes

end ComponentFormat
