import ComponentFormat.Number
import ComponentFormat.Process.Octets

/-! # Escapes in the texts of a script

Letters behind a backslash stand for control characters, and numbers for bytes. All else that is escaped stays as it
was written, for its meaning depends on the text.
-/
namespace ComponentFormat.Editor

inductive TextUse where
  | pattern
  | replacement
  | plain
  deriving DecidableEq, Repr

namespace Escapes

def control? (c : Char) : Option Char :=
  if c = 'b' then none else (Octets.controlLetters.find? (·.2 == c)).map Prod.fst

/-- The base of a number behind a letter, and how many digits it may have. -/
def base? : Char → Option (Nat × Nat)
  | 'd' => some (10, 3)
  | 'o' => some (8, 3)
  | 'x' => some (16, 2)
  | _ => none

/-- The byte of a number with at most `n` digits, if there are any, and what follows. -/
def number? (base n : Nat) (t : Octets) : Option (Char × Octets) :=
  let digits := (t.take n).takeWhile fun c => (Number.digit? base c).isSome
  (Number.natural? base digits).map fun v => (Char.ofNat (v % 256), t.drop digits.length)

def upperAscii (c : Char) : Char := if 'a' ≤ c && c ≤ 'z' then Char.ofNat (c.toNat - 32) else c

def controlOf (c : Char) : Char := Char.ofNat ((upperAscii c).toNat ^^^ 0x40)

/-- The text with its escapes put in, unless one is written that cannot be. -/
def resolve (use : TextUse) : Nat → Octets → Option Octets
  | 0, t => some t
  | _ + 1, [] => some []
  | _ + 1, ['\\'] => some ['\\']
  | fuel + 1, '\\' :: c :: t =>
    match control? c, base? c with
    | some k, _ => (resolve use fuel t).map (k :: ·)
    | none, some (base, n) =>
      match number? base n t with
      | some (v, rest) =>
        let keeps := (v = '\\' && use != .pattern) || (v = '&' && use == .replacement)
        (resolve use fuel rest).map fun r => if keeps then '\\' :: v :: r else v :: r
      | none => (resolve use fuel t).map (c :: ·)
    | none, none =>
      if c = 'c' then
        match t with
        | [] => some ['\\']
        | '\\' :: '\\' :: t => (resolve use fuel t).map (controlOf '\\' :: ·)
        | '\\' :: _ => none
        | k :: t => (resolve use fuel t).map (controlOf k :: ·)
      else (resolve use fuel t).map fun r => '\\' :: c :: r
  | fuel + 1, c :: t => (resolve use fuel t).map (c :: ·)

def bare : Octets → Octets
  | '\\' :: c :: t => c :: bare t
  | c :: t => c :: bare t
  | [] => []

end Escapes

end ComponentFormat.Editor
