import ComponentFormat.Text.Identifier
import ComponentFormat.Text.Lines

/-! # Replacements with escapes

What is to be written for something found may hold escapes: a backslash with a letter or octal digits stands for a
control character, and a reference to the whole for what was found. Main statement:
`rewriteTerminators_of_plain`, without a backslash a replacement stands for itself.
-/
namespace ComponentFormat

inductive ReplacementError where
  /-- An escape that there is not, or a reference to a part where there are no parts. -/
  | malformed
  /-- A reference by a name. -/
  | unknownName
  deriving DecidableEq, Repr

namespace Replacement

inductive Piece where
  | char (c : Char)
  | found
  deriving DecidableEq, Repr

/-- The letters of escapes and what they stand for. -/
def letters : List (Char × Char) :=
  [('a', '\x07'), ('b', '\x08'), ('t', '\x09'), ('n', '\x0a'), ('v', '\x0b'), ('f', '\x0c'), ('r', '\x0d'),
    ('\\', '\\')]

/-- The name of a reference up to its bracket, and what follows. A backslash keeps the bracket behind it. -/
def readName? : Text → Option (Text × Text)
  | [] | ['\\'] => none
  | '\\' :: c :: t => (readName? t).map fun p => ('\\' :: c :: p.1, p.2)
  | c :: t => if c = '>' then some ([], t) else (readName? t).map fun p => (c :: p.1, p.2)

/-- A reference by its number or name. The whole has the number zero, and there are no parts. -/
def reference (name rest : Text) : Except ReplacementError Piece :=
  if Text.isIdentifier name then .error (if rest = ['\\'] then .malformed else .unknownName)
  else if Number.integer? 10 name = some 0 then .ok .found
  else .error .malformed

/-- Octal digits behind a backslash: a zero and up to two more, or three up to the last byte. -/
def readOctal? (t : Text) : Option (Piece × Text) :=
  let ds := (t.take 3).takeWhile fun c => '0' ≤ c && c ≤ '7'
  match Number.natural? 8 ds with
  | some n =>
    if t.head? = some '0' ∨ (ds.length = 3 ∧ n < 256) then some (.char (Char.ofNat n), t.drop ds.length)
    else none
  | none => none

def readEscape (t : Text) : Except ReplacementError (List Piece × Text) :=
  match t with
  | [] => .error .malformed
  | 'g' :: '<' :: t =>
    match readName? t with
    | none => .error .malformed
    | some (name, rest) => (reference name rest).map fun p => ([p], rest)
  | c :: rest =>
    if isAsciiDigit c then
      match readOctal? t with
      | some (p, rest) => .ok ([p], rest)
      | none => .error .malformed
    else match letters.find? (·.1 == c) with
      | some (_, d) => .ok ([.char d], rest)
      | none => if isAsciiLetter c then .error .malformed else .ok ([.char '\\', .char c], rest)

/-- Each step takes one of the `fuel`. -/
def read : Nat → Text → Except ReplacementError (List Piece)
  | 0, _ => .error .malformed
  | _ + 1, [] => .ok []
  | fuel + 1, c :: t =>
    if c = '\\' then do
      let (ps, rest) ← readEscape t
      return ps ++ (← read fuel rest)
    else (read fuel t).map (.char c :: ·)

def ofText (t : Text) : Except ReplacementError (List Piece) :=
  read (t.length + 1) t

def fill (found : Text) (ps : List Piece) : Text :=
  ps.flatMap fun p =>
    match p with
    | .char c => [c]
    | .found => found

theorem read_of_plain {t : Text} (h : '\\' ∉ t) : read (t.length + 1) t = .ok (t.map .char) := by
  induction t with
  | nil => rfl
  | cons c t ih =>
    have hc : c ≠ '\\' := fun e => h (e ▸ List.mem_cons_self ..)
    have ht : '\\' ∉ t := fun m => h (List.mem_cons_of_mem _ m)
    simp [read, hc, ih ht, Except.map]

theorem fill_map_char (found t : Text) : fill found (t.map .char) = t := by
  induction t with
  | nil => rfl
  | cons c t ih => simp [fill] at ih ⊢; exact ih

end Replacement

namespace Text

/-- The text with a replacement written for every terminator. -/
def rewriteTerminators (e t : Text) : Except ReplacementError Text :=
  (Replacement.ofText e).map fun ps => (Lines.ofText t).renderBy fun d => Replacement.fill d.text ps

theorem rewriteTerminators_of_plain {e : Text} (t : Text) (h : '\\' ∉ e) :
    rewriteTerminators e t = .ok (withTerminator e t) := by
  simp [rewriteTerminators, Replacement.ofText, Replacement.read_of_plain h, Except.map,
    Replacement.fill_map_char, withTerminator, Lines.renderWith]

end Text

end ComponentFormat
