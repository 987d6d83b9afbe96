import ComponentFormat.Text.Basic

/-! # Positions in a component text

Positions count lines and columns from one. They are found from the starts of the lines, taken once off the text and
apart from the lines of a document.
-/
namespace ComponentFormat

structure Position where
  offset : Nat
  line : Nat
  column : Nat
  deriving DecidableEq, Repr

structure SourceLocation where
  start : Position
  stop : Position
  source : Text
  deriving DecidableEq, Repr

/-- The offsets at which the lines of a text start, in order. -/
structure Locator where
  starts : List Nat
  deriving DecidableEq, Repr

namespace Locator

/-- The offsets behind the terminators of a text that starts at `offset`. -/
def breaksFrom (offset : Nat) : Text → List Nat
  | [] => []
  | '\r' :: '\n' :: t => (offset + 2) :: breaksFrom (offset + 2) t
  | c :: t =>
    if c = '\r' ∨ c = '\n' then (offset + 1) :: breaksFrom (offset + 1) t
    else breaksFrom (offset + 1) t

def ofText (t : Text) : Locator :=
  ⟨0 :: breaksFrom 0 t⟩

/-- The line of an offset: the number of lines that start up to it. -/
def line (l : Locator) (offset : Nat) : Nat :=
  l.starts.countP (· ≤ offset)

def position (l : Locator) (offset : Nat) : Position :=
  let index := l.line offset - 1
  ⟨offset, index + 1, offset - l.starts.getD index 0 + 1⟩

end Locator

end ComponentFormat
