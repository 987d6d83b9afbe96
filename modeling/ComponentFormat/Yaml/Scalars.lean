import ComponentFormat.Number
import ComponentFormat.Yaml.Cursor

/-! # The three ways to write a scalar

Quoted scalars, plain scalars and block scalars, each read at the cursor. A line break inside a quoted or plain
scalar becomes a space, an empty line a line feed.
-/
namespace ComponentFormat.Yaml

/-- Line breaks with the blanks around them; a document marker may not stand at the start of a line. -/
def quotedBreaks : Nat → Cursor → Except Fault (Text × Cursor)
  | 0, _ => .error .malformed
  | fuel + 1, c =>
    if c.atDocumentMarker then .error .malformed
    else
      let c := c.skipWhile fun d => d == ' ' || d == '\t'
      match c.lineBreak? with
      | none => .ok ([], c)
      | some (b, c) => (quotedBreaks fuel c).map fun p => (b :: p.1, p.2)

/-- What a fold of lines contributes: the break itself unless it is a plain one, otherwise a space when no empty
line follows. -/
def folded (first : Char) (more : Text) : Text :=
  if first != '\n' then first :: more else if more.isEmpty then [' '] else more

/-- Blanks inside a quoted scalar, or a fold of lines. -/
def quotedSpaces (fuel : Nat) (c : Cursor) : Except Fault (Text × Cursor) :=
  let isBlank (d : Char) : Bool := d == ' ' || d == '\t'
  let blanks := c.rest.takeWhile isBlank
  let c := c.skipWhile isBlank
  if c.peek == '\x00' then .error .malformed
  else match c.lineBreak? with
    | none => .ok (blanks, c)
    | some (b, c) => (quotedBreaks fuel c).map fun p => (folded b p.1, p.2)

def escapes : List (Char × Char) :=
  [('0', '\x00'), ('a', '\x07'), ('b', '\x08'), ('t', '\x09'), ('\t', '\x09'), ('n', '\x0a'),
    ('v', '\x0b'), ('f', '\x0c'), ('r', '\x0d'), ('e', '\x1b'), (' ', ' '), ('"', '"'), ('\\', '\\'),
    ('/', '/'), ('N', Char.ofNat 0x85), ('_', Char.ofNat 0xA0), ('L', Char.ofNat 0x2028),
    ('P', Char.ofNat 0x2029)]

def escapeWidth? (c : Char) : Option Nat :=
  if c == 'x' then some 2 else if c == 'u' then some 4 else if c == 'U' then some 8 else none

/-- An escape behind its backslash. An escaped line break leaves nothing but the empty lines after it. -/
def readEscape (fuel : Nat) (c : Cursor) : Except Fault (Text × Cursor) :=
  match escapes.find? (·.1 == c.peek), escapeWidth? c.peek, c.lineBreak? with
  | some (_, d), _, _ => .ok ([d], c.step)
  | none, some width, _ =>
    let c := c.step
    match Number.natural? 16 (c.rest.take width) with
    | some code =>
      if (c.rest.take width).length < width then .error .malformed
      else if code < 0x110000 then .ok ([Char.ofNat code], c.advance width)
      else .error (.unconvertible (if code < twoTo 31 then .outOfRange else .tooLarge))
    | none => .error .malformed
  | none, none, some (_, c) => quotedBreaks fuel c
  | none, none, none => .error .malformed

def readQuoted (double : Bool) : Nat → Cursor → Except Fault (Text × Cursor)
  | 0, _ => .error .malformed
  | fuel + 1, c =>
    let go (front : Text) (c : Cursor) := (readQuoted double fuel c).map fun p => (front ++ p.1, p.2)
    let d := c.peek
    if d == (if double then '"' else '\'') then
      if !double && c.peekAt 1 == '\'' then go ['\''] (c.advance 2) else .ok ([], c.step)
    else if double && d == '\\' then do
      let (front, c) ← readEscape fuel c.step
      go front c
    else if isGap d then do
      let (front, c) ← quotedSpaces fuel c
      go front c
    else go [d] c.step

/-- Blanks behind a part of a plain scalar: the text they contribute, and whether a line was ended. -/
def plainSpaces (c : Cursor) : Text × Bool × Cursor :=
  let blanks := c.rest.takeWhile (· == ' ')
  let c := c.skipSpaces
  match c.lineBreak? with
  | none => (blanks, false, c)
  | some (b, c) =>
    if c.atDocumentMarker then ([], true, c)
    else match emptyLines (c.rest.length + 1) c with
      | none => ([], true, c)
      | some (more, c) => (folded b more, true, c)
where
  /-- Empty lines and indentation; none in front of a document marker. -/
  emptyLines : Nat → Cursor → Option (Text × Cursor)
    | 0, _ => none
    | fuel + 1, c =>
      if c.peek == ' ' then emptyLines fuel c.step
      else match c.lineBreak? with
        | none => some ([], c)
        | some (b, c) =>
          if c.atDocumentMarker then none
          else (emptyLines fuel c).map fun p => (b :: p.1, p.2)

/-- The characters of a plain scalar up to a gap, a colon before a gap, or an indicator of a flow collection. -/
def plainRun (inFlow : Bool) : Text → Text
  | [] => []
  | c :: t =>
    let next := t.headD '\x00'
    let endsAtColon :=
      c == ':' && (isGap next || (inFlow && [',', '[', ']', '\x7b', '\x7d'].contains next))
    if isGap c || endsAtColon || (inFlow && [',', '?', '[', ']', '\x7b', '\x7d'].contains c) then []
    else c :: plainRun inFlow t

/-- A plain scalar: its text, whether the last thing read was the end of a line, and the place behind. -/
def readPlain (inFlow : Bool) (indent : Int) : Nat → Cursor → Text × Bool × Cursor
  | 0, c => ([], false, c)
  | fuel + 1, c =>
    let run := if c.peek == '#' then [] else plainRun inFlow c.rest
    if run.isEmpty then ([], false, c)
    else
      let (spaces, ended, c) := plainSpaces (c.advance run.length)
      if spaces.isEmpty || c.peek == '#' || (!inFlow && c.column < indent) then (run, ended, c)
      else
        let (more, again, after) := readPlain inFlow indent fuel c
        if more.isEmpty then (run, ended, after) else (run ++ spaces ++ more, again, after)

inductive Chomping where
  | strip
  | clip
  | keep
  deriving DecidableEq, Repr

/-- The header of a block scalar: chomping and an indentation from one to nine, in either order. -/
def readBlockHeader (c : Cursor) : Except Fault (Chomping × Option Nat × Cursor) := do
  let mark? (c : Cursor) : Option Chomping :=
    if c.peek == '+' then some .keep else if c.peek == '-' then some .strip else none
  let digit? (c : Cursor) : Option Nat := Number.digit? 10 c.peek
  let (chomping, increment, c) :=
    match mark? c, digit? c with
    | some m, _ =>
      match digit? c.step with
      | some n => (m, some n, c.advance 2)
      | none => (m, none, c.step)
    | none, some n =>
      match mark? c.step with
      | some m => (m, some n, c.advance 2)
      | none => (.clip, some n, c.step)
    | none, none => (.clip, none, c)
  if increment = some 0 || !isSpaceOrStop c.peek then throw .malformed
  return (chomping, increment, ← c.restOfLine)

def skipIndent (indent : Nat) : Nat → Cursor → Cursor
  | 0, c => c
  | fuel + 1, c => if c.column < indent && c.peek == ' ' then skipIndent indent fuel c.step else c

/-- Empty lines in front of the next line at the indentation. -/
def blockBreaks (indent : Nat) : Nat → Cursor → Text × Cursor
  | 0, c => ([], c)
  | fuel + 1, c =>
    let c := skipIndent indent c.rest.length c
    match c.lineBreak? with
    | none => ([], c)
    | some (b, c) =>
      let (more, c) := blockBreaks indent fuel c
      (b :: more, c)

/-- Empty lines in front of the first line, and the deepest column reached in them. -/
def blockIndent : Nat → Nat → Cursor → Text × Nat × Cursor
  | 0, deepest, c => ([], deepest, c)
  | fuel + 1, deepest, c =>
    if c.peek == ' ' then blockIndent fuel (max deepest c.step.column) c.step
    else match c.lineBreak? with
      | none => ([], deepest, c)
      | some (b, c) =>
        let (more, deepest, c) := blockIndent fuel deepest c
        (b :: more, deepest, c)

/-- The lines of a block scalar from one at the indentation on, `breaks` being the empty lines before it. The
break of the last line and the empty lines behind it come apart from the text. -/
def blockLines (fold : Bool) (indent : Nat) : Nat → Text → Cursor → Text × Text × Text × Cursor
  | 0, breaks, c => ([], [], breaks, c)
  | fuel + 1, breaks, c =>
    let startsBlank := c.peek == ' ' || c.peek == '\t'
    let line := c.rest.takeWhile (!isStop ·)
    let c := c.advance line.length
    let (ending, c) :=
      match c.lineBreak? with
      | some (b, c) => ([b], c)
      | none => ([], c)
    let (next, c) := blockBreaks indent (c.rest.length + 1) c
    if c.column == indent && c.peek != '\x00' then
      let seam :=
        if fold && ending == ['\n'] && !startsBlank && c.peek != ' ' && c.peek != '\t' then
          if next.isEmpty then [' '] else []
        else ending
      let (text, last, tail, c) := blockLines fold indent fuel next c
      (breaks ++ line ++ seam ++ text, last, tail, c)
    else (breaks ++ line, ending, next, c)

/-- A block scalar behind its indicator, inside a collection at column `parent`. -/
def readBlock (fold : Bool) (parent : Int) (c : Cursor) : Except Fault (Text × Cursor) := do
  let (chomping, increment, c) ← readBlockHeader c
  let least := max (parent + 1).toNat 1
  let (breaks, indent, c) :=
    match increment with
    | some n =>
      let indent := least + n - 1
      let (breaks, c) := blockBreaks indent (c.rest.length + 1) c
      (breaks, indent, c)
    | none =>
      let (breaks, deepest, c) := blockIndent (c.rest.length + 1) 0 c
      (breaks, max least deepest, c)
  let (text, last, tail, c) :=
    if c.column == indent && c.peek != '\x00' then blockLines fold indent (c.rest.length + 1) breaks c
    else ([], [], breaks, c)
  return (match chomping with
    | .strip => text
    | .clip => text ++ last
    | .keep => text ++ last ++ tail, c)

end ComponentFormat.Yaml
