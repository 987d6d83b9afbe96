import ComponentFormat.Process.Glyph

/-! # Patterns of the shell

An asterisk stands for any characters, a question mark for one, brackets for one of several; a character behind a
backslash stands for itself. Patterns and texts are compared byte by byte.
-/
namespace ComponentFormat.Shell

/-- A character of a word that has been expanded. A guarded one means nothing but itself. -/
inductive Cell where
  | char (c : Char) (guarded : Bool)
  | mark
  deriving DecidableEq, Repr

namespace Cell

def plain (t : Octets) : List Cell := t.map (.char · false)

def guarded (t : Octets) : List Cell := t.map (.char · true)

/-- The characters without what quotes left behind. -/
def text : List Cell → Octets
  | [] => []
  | .char c _ :: cells => c :: text cells
  | .mark :: cells => text cells

end Cell

inductive BracketItem where
  | range (low high : Char)
  | glyphClass (k : GlyphClass)
  deriving DecidableEq, Repr

inductive WildcardItem where
  | exactly (c : Char)
  | one
  | any
  | oneOf (negated : Bool) (items : List BracketItem)
  deriving DecidableEq, Repr

abbrev Wildcard := List WildcardItem

namespace Wildcard

def BracketItem.holds (c : Char) : BracketItem → Bool
  | .range low high => low ≤ c && c ≤ high
  | .glyphClass k => c.toNat < 0x80 && k.holdsNarrow c

def WildcardItem.accepts (c : Char) : WildcardItem → Bool
  | .exactly d => c == d
  | .one | .any => true
  | .oneOf negated items => items.any (BracketItem.holds c) != negated

/-- The class named behind an opening bracket, and what follows it. -/
def className? : List (Char × Bool) → Option (GlyphClass × List (Char × Bool))
  | (':', false) :: t =>
    let name := t.takeWhile fun p => isAsciiLetter p.1
    match t.drop name.length with
    | (':', _) :: (']', _) :: rest => (GlyphClass.named? (name.map Prod.fst)).map (·, rest)
    | _ => none
  | _ => none

/-- What stands in brackets up to the closing one, which the first item cannot be. -/
def bracket? : Nat → Bool → List (Char × Bool) → Option (List BracketItem × List (Char × Bool))
  | 0, _, _ | _, _, [] => none
  | fuel + 1, isFirst, (c, guarded) :: t =>
    if c == ']' && !guarded && !isFirst then some ([], t)
    else
      match if c == '[' && !guarded then className? t else none with
      | some (k, rest) => (bracket? fuel false rest).map fun p => (.glyphClass k :: p.1, p.2)
      | none =>
        match t with
        | ('-', false) :: (d, g) :: rest =>
          if d == ']' && !g then (bracket? fuel false t).map fun p => (.range c c :: p.1, p.2)
          else (bracket? fuel false rest).map fun p => (.range c d :: p.1, p.2)
        | _ => (bracket? fuel false t).map fun p => (.range c c :: p.1, p.2)

/-- A pattern of characters, those that stand for themselves being told apart. -/
def ofChars : Nat → List (Char × Bool) → Wildcard
  | 0, _ | _, [] => []
  | fuel + 1, (c, guarded) :: t =>
    if guarded then .exactly c :: ofChars fuel t
    else if c == '*' then .any :: ofChars fuel t
    else if c == '?' then .one :: ofChars fuel t
    else if c == '[' then
      let (negated, inside) := match t with
        | ('!', false) :: inside => (true, inside)
        | _ => (false, t)
      match bracket? (t.length + 1) true inside with
      | some (items, rest) => .oneOf negated items :: ofChars fuel rest
      | none => .exactly c :: ofChars fuel t
    else .exactly c :: ofChars fuel t

/-- The characters of cells; a backslash guards the one behind it. -/
def chars : List Cell → List (Char × Bool)
  | [] => []
  | .mark :: cells => chars cells
  | .char '\\' false :: .char c _ :: cells => (c, true) :: chars cells
  | .char c guarded :: cells => (c, guarded) :: chars cells

def ofCells (cells : List Cell) : Wildcard := ofChars cells.length (chars cells)

def accepts : Wildcard → Octets → Bool
  | [], t => t.isEmpty
  | .any :: w, [] => accepts w []
  | .any :: w, c :: t => accepts w (c :: t) || accepts (.any :: w) t
  | _ :: _, [] => false
  | item :: w, c :: t => WildcardItem.accepts c item && accepts w t
termination_by w t => (w.length, t.length)

/-- Whether a pattern matches a text up to a zero, if there may be one. -/
def acceptsFront (w : Wildcard) (hasZero : Bool) (t : Octets) : Bool :=
  accepts w (if hasZero then t.takeWhile (· != '\x00') else t)

/-- How many characters at the front a pattern matches. -/
def front? (w : Wildcard) (longest : Bool) (t : Octets) : Option Nat :=
  let hasZero := t.any (· == '\x00')
  let sizes := List.range (t.length + 1)
  (if longest then sizes.reverse else sizes).find? fun n => acceptsFront w hasZero (t.take n)

def suffixes : Octets → List Octets
  | [] => [[]]
  | c :: t => (c :: t) :: suffixes t

def back? (w : Wildcard) (longest : Bool) (t : Octets) : Option Nat :=
  let hasZero := t.any (· == '\x00')
  let ends := suffixes t
  ((if longest then ends else ends.reverse).find? fun u => acceptsFront w hasZero u).map List.length

/-- Whether cells hold a character that would mean more than itself. -/
def isIn (cells : List Cell) : Bool :=
  cells.any fun c => c == .char '*' false || c == .char '?' false || c == .char '[' false

end Wildcard

end ComponentFormat.Shell
