import ComponentFormat.Text.Lines

/-! # Documents

A document is one snapshot of a text. Lines and columns count from zero; a line runs from its first character
to the character before its terminator. All spans and edits of a pass are positions in one such snapshot.
-/
namespace ComponentFormat

/-- Where a line starts and where its last character ends. -/
structure Extent where
  start : Nat
  stop : Nat
  deriving DecidableEq, Repr

inductive PositionError where
  | line (n : Int)
  | offset (n : Int)
  | reversed (first last : Int)
  deriving DecidableEq, Repr

namespace PositionError

def message : PositionError → String
  | line n => s!"Line {n} out of range"
  | offset n => s!"Offset {n} out of range"
  | reversed first last => s!"end_line {last} precedes start_line {first}"

end PositionError

/-- The extents of the lines when the first one starts at `start`. -/
def Lines.extentsFrom (start : Nat) : List (Text × Terminator) → Text → List Extent
  | [], last => [⟨start, start + last.length⟩]
  | (line, e) :: more, last =>
    ⟨start, start + line.length⟩ :: extentsFrom (start + line.length + e.text.length) more last

def Lines.extents (l : Lines) : List Extent :=
  extentsFrom 0 l.ended l.last

structure Document where
  path : String
  text : Text
  deriving DecidableEq, Repr

namespace Document

def ofText (t : Text) : Document := ⟨"", t⟩

def length (d : Document) : Nat := d.text.length

def lines (d : Document) : Lines := Lines.ofText d.text

def lineCount (d : Document) : Nat := d.lines.count

def terminator (d : Document) : Terminator := d.lines.dominant

def label (d : Document) : String :=
  if d.path.isEmpty then "<memory>" else d.path

def extent? (d : Document) (line : Nat) : Option Extent :=
  d.lines.extents[line]?

def extent (d : Document) (line : Int) : Except PositionError Extent :=
  if line < 0 then .error (.line line)
  else match d.extent? line.toNat with
    | some e => .ok e
    | none => .error (.line line)

def lineStart (d : Document) (line : Int) : Except PositionError Nat :=
  (d.extent line).map Extent.start

def lineEnd (d : Document) (line : Int) : Except PositionError Nat :=
  (d.extent line).map Extent.stop

/-- The characters from offset `start` up to offset `stop`. -/
def cut (d : Document) (start stop : Nat) : Text :=
  (d.text.drop start).take (stop - start)

def lineText (d : Document) (line : Int) : Except PositionError Text :=
  (d.extent line).map fun e => d.cut e.start e.stop

/-- The offset of a column; a column past the end of the line is the end of the line. -/
def offsetAt (d : Document) (line column : Int) : Except PositionError Nat :=
  (d.extent line).map fun e => min (e.start + column.toNat) e.stop

/-- The line and column of an offset within the text; a line owns its terminator. -/
def place (d : Document) (offset : Nat) : Nat × Nat :=
  let starts := (d.lines.extents.map Extent.start).takeWhile (· ≤ offset)
  (starts.length - 1, offset - starts.getLastD 0)

def positionAt (d : Document) (offset : Int) : Except PositionError (Nat × Nat) :=
  if 0 ≤ offset ∧ offset ≤ d.length then .ok (d.place offset.toNat)
  else .error (.offset offset)

/-- The whole lines `first` to `last`, without the terminator of the last. -/
def wholeLines (d : Document) (first last : Int) : Except PositionError Text := do
  if last < first then throw (.reversed first last)
  let start ← d.lineStart first
  let stop ← d.lineEnd last
  return d.cut start stop

end Document

end ComponentFormat
