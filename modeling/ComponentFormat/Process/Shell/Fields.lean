import ComponentFormat.Process.Shell.Wildcard

/-! # Splitting words into fields

An expanded word is a row of spans. A span that came out of an expansion falls apart at its separators; blanks among
them do not count at the front of a field, and several of them are one.
-/
namespace ComponentFormat.Shell

inductive Splitting where
  | nowhere
  | separators
  /-- Between the arguments of a quoted list of them. -/
  | arguments
  deriving DecidableEq, Repr

structure Span where
  cells : List Cell
  splitting : Splitting
  deriving DecidableEq, Repr

/-- What stands between arguments that are to be apart. -/
def betweenArguments : Char := '\x00'

namespace Fields

def blanks : List Char := [' ', '\t', '\n', betweenArguments]

/-- The fields before, the last first, and the cells of the current one in reverse. -/
structure State where
  done : List (List Cell)
  current : List Cell

def isSeparator (separators : List Char) : Cell → Bool
  | .char c _ => separators.contains c
  | .mark => false

def isBlank (cell : Cell) : Bool := isSeparator blanks cell

/-- Pass over the separators behind a field: blanks, and one that is none unless the first was one. -/
def afterField (separators : List Char) : Bool → List Cell → List Cell
  | _, [] => []
  | blank, cell :: cells =>
    if !isSeparator separators cell then cell :: cells
    else if isBlank cell then afterField separators blank cells
    else if blank then afterField separators false cells
    else cell :: cells

/-- Take over the cells of a span. Whether blanks are told from other separators depends on `counts`, and whether
several separators can be one on `merges`. -/
def takeSpan (separators : List Char) (counts merges : Bool) : Nat → List Cell → State → State
  | 0, cells, s => { s with current := cells.reverse ++ s.current }
  | _, [], s => s
  | fuel + 1, cell :: cells, s =>
    if !isSeparator separators cell then
      takeSpan separators counts merges fuel cells { s with current := cell :: s.current }
    else
      let blank := counts && isBlank cell
      if s.current.isEmpty && blank then takeSpan separators counts merges fuel cells s
      else
        let rest := if merges then afterField separators blank cells else cells
        takeSpan separators counts merges fuel rest ⟨s.current.reverse :: s.done, []⟩

/-- Take over spans, `behind` telling whether the last one that falls apart was a list of arguments; right behind it
no separator counts as a blank. -/
def take (separators : List Char) : Bool → List Span → State → State × Bool
  | behind, [], s => (s, behind)
  | behind, span :: spans, s =>
    let size := span.cells.length
    match span.splitting with
    | .nowhere => take separators behind spans { s with current := span.cells.reverse ++ s.current }
    | .separators =>
      take separators false spans (takeSpan (betweenArguments :: separators) (!behind) true size span.cells s)
    | .arguments => take separators true spans (takeSpan [betweenArguments] false false size span.cells s)

def split (separators : List Char) (spans : List Span) : List (List Cell) :=
  let (s, behind) := take separators false spans ⟨[], []⟩
  (if behind || !s.current.isEmpty then s.current.reverse :: s.done else s.done).reverse

/-! ## Lines that are read into variables

The characters of a line come with whether they may separate fields. Those that may not are passed over where a
field's end is looked for.
-/

/-- How many characters the last field keeps: not the blanks at the end, and not one separator that is alone. -/
def lastField (separators : List Char) : Bool → Option Nat → Nat → List (Char × Bool) → Option Nat
  | _, cut, _, [] => cut
  | _, cut, n, (_, false) :: cells => lastField separators false cut (n + 1) cells
  | blank, cut, n, (c, true) :: cells =>
    if separators.contains c && blanks.contains c then
      lastField separators blank (some (cut.getD n)) (n + 1) cells
    else if separators.contains c && blank then lastField separators false cut (n + 1) cells
    else lastField separators false none (n + 1) cells

def afterLineField (separators : List Char) : Bool → List (Char × Bool) → List (Char × Bool)
  | _, [] => []
  | blank, (c, separates) :: cells =>
    if !(separates && separators.contains c) then (c, separates) :: cells
    else if blanks.contains c then afterLineField separators blank cells
    else if blank then afterLineField separators false cells
    else (c, separates) :: cells

/-- A line as at most `count` fields; what is left of it belongs to the last one. -/
def ofLine (separators : List Char) : Nat → Nat → List (Char × Bool) → Octets → List Octets
  | 0, _, _, _ => []
  | _, _, [], current => if current.isEmpty then [] else [current.reverse]
  | fuel + 1, count, (c, separates) :: cells, current =>
    if !(separates && separators.contains c) then ofLine separators fuel count cells (c :: current)
    else
      let blank := blanks.contains c
      if current.isEmpty && blank then ofLine separators fuel count cells []
      else if count ≤ 1 then
        let all := (c, separates) :: cells
        let rest := match lastField separators blank (some 0) 1 cells with
          | some n => all.take n
          | none => all
        let field := current.reverse ++ rest.map Prod.fst
        if field.isEmpty then [] else [field]
      else current.reverse :: ofLine separators fuel (count - 1) (afterLineField separators blank cells) []

end Fields

end ComponentFormat.Shell
