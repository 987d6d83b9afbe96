import ComponentFormat.Process.Shell.Token

/-! # Reading the parts of a word

Inside of braces and of arithmetic the same characters are read again with other meanings: a frame tells what they
are. Commands inside of a word are read by what is given for it.
-/
namespace ComponentFormat.Shell

inductive Style where
  | bare
  | double
  | single
  | arithmetic
  deriving DecidableEq, Repr

inductive Role where
  | plain
  /-- It would mean something in a pattern or a path. -/
  | marked
  | newline
  | escape
  | singleQuote
  | doubleQuote
  | closingQuote
  | dollar
  | backquote
  | closingBrace
  | opens
  | closes
  | operator
  deriving DecidableEq, Repr

namespace Style

def marked : List Char := ['!', '*', '?', '[', '=', '~', ':', '/', '-', ']']

def operators : List Char := ['<', '>', '(', ')', ';', '&', '|', ' ', '\t']

def role (s : Style) (c : Char) : Role :=
  if c == '\n' then .newline
  else match s with
    | single => if c == '\'' then .closingQuote else if marked.contains c || c == '\\' then .marked else .plain
    | bare | double | arithmetic =>
      if c == '\\' then .escape
      else if c == '$' then .dollar
      else if c == '\x60' then .backquote
      else if c == '\x7d' then .closingBrace
      else match s with
        | bare =>
          if c == '\'' then .singleQuote
          else if c == '"' then .doubleQuote
          else if operators.contains c then .operator
          else .plain
        | double => if c == '"' then .closingQuote else if marked.contains c then .marked else .plain
        | arithmetic => if c == '(' then .opens else if c == ')' then .closes else .plain
        | single => .plain

end Style

structure Frame where
  style : Style
  /-- Inside of double quotes, or as if. -/
  doubled : Bool
  /-- Behind an odd number of double quotes inside of braces. -/
  inner : Bool
  braced : Bool
  /-- In braces that stand in double quotes. -/
  deep : Bool
  depth : Nat
  /-- In a text of the script that is no command. -/
  isDocument : Bool
  isMark : Bool
  deriving DecidableEq, Repr

namespace Frame

def bare : Frame := ⟨.bare, false, false, false, false, 0, false, false⟩

def mark : Frame := { bare with isMark := true }

def document : Frame := { bare with style := .double, doubled := true, isDocument := true }

def arithmetic (f : Frame) : Frame :=
  { f with style := .arithmetic, doubled := true, inner := false, braced := false, deep := false, depth := 0 }

/-- The frame of the word in braces, which is read like this one or as if it stood alone. -/
def braces (f : Frame) (alone : Bool) : Frame :=
  let style := if alone then .bare else if f.style = .arithmetic then .double else f.style
  let doubled := if style = f.style ∧ !f.inner then f.doubled else style ≠ .bare
  { f with style, doubled, inner := false, braced := true, deep := doubled, depth := 0 }

/-- Whether a backslash in front of a character stays. -/
def keepsBackslash (f : Frame) (c : Char) : Bool :=
  f.doubled && !(['\\', '\x60', '$'].contains c) && (c != '"' || (f.isDocument && !f.braced)) &&
    (c != '\x7d' || !f.braced)

end Frame

/-- How commands inside of a word are read: up to the end of a list of them. -/
abbrev Nested := Reading (Option Command)

namespace Reading

def finishFrame (f : Frame) : Reading Unit := do
  if f.style = .arithmetic then fail "Missing '))'"
  else if f.style ≠ .bare && !f.isDocument then fail "Unterminated quoted string"
  else if f.braced then fail "Missing '\x7d'"

/-- Read commands in a place of their own. -/
def apart (nested : Nested) (enter : Reader → Reader) (leave : Reader → Reader → Reader) :
    Reading (Option Command) := do
  let r ← get
  set { enter r with again := false, awaited := [] }
  let body ← nested
  modify fun s => { leave r s with quoted := r.quoted, awaited := r.awaited }
  return body

def backquoted (doubled : Bool) : Nat → Octets → Reading Octets
  | 0, acc => return acc.reverse
  | fuel + 1, acc => do
    let c? ← peek
    drop 1
    match c? with
    | none => fail "EOF in backquote substitution"
    | some '\x60' => return acc.reverse
    | some '\\' =>
      match (← get).rest with
      | c :: _ =>
        drop 1
        let kept := !(['\\', '\x60', '$'].contains c) && (!doubled || c != '"')
        backquoted doubled fuel (c :: if kept then '\\' :: acc else acc)
      | [] => fail "EOF in backquote substitution"
    | some c =>
      if c == '\n' then modify fun r => { r with line := r.line + 1 }
      backquoted doubled fuel (c :: acc)

/-- The output of commands between backquotes, the first one being read. -/
def oldOutput (nested : Nested) (f : Frame) : Reading Part := do
  let text ← backquoted f.doubled (← get).fuel []
  let body ← apart nested (fun r => { r with rest := text, line := 1 })
    fun r s => { r with documents := s.documents, next := s.next }
  return .output body

/-- The output of commands in parentheses, the first one being read. Texts that are not there are empty. -/
def output (nested : Nested) : Reading Part := do
  let closed : Nested := do
    let body ← nested
    if (← get).token ≠ .closes then unexpected (some .closes)
    modify fun r => { r with documents := r.awaited.map (fun a => (a.number, [])) ++ r.documents }
    return body
  let body ← apart closed id fun _ s => { s with again := false }
  return .output body

/-- What is asked of a parameter in braces, its name being read: the demand, whether an empty value counts as
missing, and whether the word stands alone. -/
def use : Reading (ParameterUse × Bool × Bool) := do
  let colon ← accept ':'
  let c? ← peek
  let known (u : ParameterUse) : Reading (ParameterUse × Bool × Bool) := do
    drop 1
    return (u, colon, false)
  match c? with
  | some '\x7d' => known .value
  | some '-' => known .fallback
  | some '+' => known .alternative
  | some '?' => known .presence
  | some '=' => known .default
  | some c =>
    if colon || (c != '%' && c != '#') then known .unknown
    else
      drop 1
      let longest ← accept c
      return (.trimmed (c == '%') longest, false, true)
  | none => return (.unknown, colon, false)

/-- The name of a parameter behind an opening brace, with what is asked of it if that is known by now. -/
def bracedName : Reading (Octets × Option ParameterUse) := do
  let fuel := (← get).fuel
  let bad : Octets × Option ParameterUse := ([], some .unknown)
  let ended (name : Octets) : Reading (Octets × Option ParameterUse) := do
    if (← peek) == some '\x7d' then drop 1; return (name, some .length) else return (name, some .unknown)
  match ← peek with
  | none => return bad
  | some '\x7d' => return bad
  | some '#' =>
    drop 1
    match ← peek with
    | none => return (['#'], none)
    | some c =>
      if startsName c then ended (← takeWhile continuesName fuel [])
      else if isAsciiDigit c then ended (← takeWhile isAsciiDigit fuel [])
      else if c == '\x7d' then return (['#'], none)
      else
        drop 1
        if (← peek) == some '\x7d' then
          if isSpecialParameter c then drop 1; return ([c], some .length) else return bad
        else
          modify fun r => { r with rest := c :: r.rest }
          return (['#'], none)
  | some c =>
    if startsName c then return (← takeWhile continuesName fuel [], none)
    else if isAsciiDigit c then return (← takeWhile isAsciiDigit fuel [], none)
    else
      drop 1
      if isSpecialParameter c then return ([c], none) else return bad

/-- The parts behind a dollar sign, `inside` reading those of a frame. -/
def dollar (nested : Nested) (inside : Frame → Reading Word) (f : Frame) : Reading Word := do
  let stays : Word := [.char '$' false]
  let c? ← if f.isMark then pure none else peek
  match c? with
  | none => return stays
  | some '(' =>
    drop 1
    if ← accept '(' then
      return [.arithmetic (← inside f.arithmetic)]
    else
      return [← output nested]
  | some '\x7b' =>
    drop 1
    let (name, use?) ← bracedName
    let (use, colon, alone) ← match use? with
      | some u => pure (u, false, false)
      | none => Reading.use
    match use with
    | .value | .length => return [.parameter name use colon []]
    | _ => return [.parameter name use colon (← inside (f.braces alone))]
  | some c =>
    if startsName c then
      return [.parameter (← takeWhile continuesName (← get).fuel []) .value false []]
    else if isSpecialParameter c then
      drop 1
      return [.parameter [c] .value false []]
    else return stays

/-- The parts up to the end of a frame, those before being given in reverse. -/
def parts (nested : Nested) : Nat → Frame → Word → Reading Word
  | 0, _, acc => return acc.reverse
  | fuel + 1, f, acc => do
    if f.style ≠ .single then skipJoins
    match (← get).rest with
    | [] =>
      finishFrame f
      return acc.reverse
    | c :: t =>
      let take (p : Part) : Reading Word := do
        modify fun r => { r with rest := t }
        parts nested fuel f (p :: acc)
      match f.style.role c with
      | .plain => take (.char c false)
      | .marked => take (.char c (!f.isDocument || f.doubled))
      | .newline =>
        if f.style = .bare && !f.braced then return acc.reverse
        else
          modify fun r => { r with line := r.line + 1 }
          take (.char c false)
      | .operator => if f.braced then take (.char c false) else return acc.reverse
      | .escape =>
        match t with
        | [] => take (.char c true)
        | d :: t =>
          modify fun r => { r with rest := t, quoted := true }
          parts nested fuel f (.char d true :: if f.keepsBackslash d then .char '\\' true :: acc else acc)
      | .singleQuote =>
        modify fun r => { r with rest := t }
        parts nested fuel { f with style := .single } (if f.isDocument then acc else .mark :: acc)
      | .doubleQuote =>
        modify fun r => { r with rest := t }
        parts nested fuel { f with style := .double, doubled := true, inner := if f.braced then !f.inner else f.inner }
          (if f.isDocument then acc else .mark :: acc)
      | .closingQuote =>
        if f.isDocument && !f.braced then take (.char c false)
        else
          modify fun r => { r with rest := t, quoted := true }
          let f := if f.deep then f else { f with style := .bare, doubled := false }
          let f := if c == '"' && f.braced then { f with inner := !f.inner } else f
          parts nested fuel f (if f.isDocument then acc else .mark :: acc)
      | .dollar =>
        modify fun r => { r with rest := t }
        let ps ← dollar nested (fun g => parts nested fuel g []) f
        parts nested fuel f (ps.reverse ++ acc)
      | .backquote =>
        if f.isMark then take (.char c false)
        else
          modify fun r => { r with rest := t }
          let p ← oldOutput nested f
          parts nested fuel f (p :: acc)
      | .closingBrace =>
        if f.braced && !f.inner then
          modify fun r => { r with rest := t }
          return acc.reverse
        else take (.char c false)
      | .opens =>
        modify fun r => { r with rest := t }
        parts nested fuel { f with depth := f.depth + 1 } (.char c false :: acc)
      | .closes =>
        modify fun r => { r with rest := t }
        if f.depth ≠ 0 then
          parts nested fuel { f with depth := f.depth - 1 } (.char c false :: acc)
        else if ← accept ')' then return acc.reverse
        else parts nested fuel f (.char c false :: acc)

end Reading

end ComponentFormat.Shell
