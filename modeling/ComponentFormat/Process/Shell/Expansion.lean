import ComponentFormat.Process.Shell.Arithmetic
import ComponentFormat.Process.Shell.Fields

/-! # What words stand for

The parts of a word are put in place: values of parameters, output of commands, results of arithmetic. Where a word
stands for several, it falls apart into fields, and patterns of paths become the paths that they match.
-/
namespace ComponentFormat.Shell

structure Manner where
  /-- Into fields. -/
  splits : Bool
  tilde : Bool
  /-- As an assignment, where a tilde counts behind the equals sign and behind colons. -/
  assigns : Bool
  /-- In place of a value, so that its own separators count. -/
  isWord : Bool
  quoted : Bool
  deriving DecidableEq, Repr

namespace Manner

def fields : Manner := ⟨true, true, false, false, false⟩

def plain : Manner := ⟨false, true, false, false, false⟩

def assignment : Manner := ⟨false, false, true, false, false⟩

def document : Manner := ⟨false, false, false, false, true⟩

def arithmetic : Manner := ⟨false, false, false, false, false⟩

end Manner

namespace Sh

/-- What separates fields; none if that has been taken away. -/
def separators? : Sh (Option Octets) := lookUp? "IFS".toList

def defaultSeparators : List Char := [' ', '\t', '\n']

/-- The letters of all options, in the order that they are shown. -/
def optionLetters : List Char :=
  ['p', 'u', 'b', 'a', 'C', 'E', 'V', 'v', 'x', 's', 'n', 'm', 'i', 'I', 'f', 'e']

/-- What stands between the arguments where all of them are asked for. -/
def betweenAll (m : Manner) (apart : Bool) : Sh Octets := do
  if m.splits && m.quoted && apart then return [betweenArguments]
  match ← separators? with
  | none => return [' ']
  | some separators => return if m.splits && !m.quoted then [betweenArguments] else separators.take 1

def parameterValue? (m : Manner) (name : Octets) : Sh (Option Octets) := do
  let s ← get
  match name with
  | ['$'] => return some (Octets.ofNat s.shown)
  | ['?'] => return some (Octets.ofNat s.status)
  | ['#'] => return some (Octets.ofNat s.arguments.length)
  | ['!'] => return s.lastJob.map Octets.ofNat
  | ['-'] => return some (optionLetters.filter s.options.contains)
  | ['@'] => return some (Text.join (← betweenAll m true) s.arguments)
  | ['*'] => return some (Text.join (← betweenAll m false) s.arguments)
  | _ =>
    match Number.natural? 10 name with
    | some 0 => return some s.name
    | some (n + 1) => return s.arguments[n]?
    | none => lookUp? name

def valueCells (m : Manner) (value : Octets) : List Cell :=
  if m.quoted then Cell.guarded value else Cell.plain value

/-- A value where it may fall apart. -/
def valueSpan (m : Manner) (value : Octets) : Span :=
  ⟨valueCells m value, if m.quoted then .nowhere else .separators⟩

/-- The value of the parameter as it falls apart. -/
def parameterSpan (m : Manner) (name value : Octets) : Sh Span := do
  let span := valueSpan m value
  if m.quoted && name = ['@'] && !(← get).arguments.isEmpty then
    -- Arguments are told apart by what stands between them.
    let cells := value.map fun c => Cell.char c (c != betweenArguments)
    return ⟨cells, .arguments⟩
  else return span

def cellsOf (spans : List Span) : List Cell := spans.flatMap Span.cells

def textOf (spans : List Span) : Octets := Cell.text (cellsOf spans)

/-- What a parameter in braces stands for, `inner` expanding the word behind it. -/
def parameterSpans (inner : Manner → Word → Sh (List Span)) (m : Manner) (name : Octets) (use : ParameterUse)
    (colon : Bool) (word : Word) : Sh (List Span) := do
  if use = .unknown then fail "Bad substitution".toList
  let value? ← parameterValue? m name
  let value? := if colon && value? = some [] then none else value?
  let unset : Sh (List Span) := do
    if ← hasOption 'u' then fail (name ++ ": parameter not set".toList)
    return []
  match use, value? with
  | .value, some value => return [← parameterSpan m name value]
  | .value, none => unset
  | .length, some value => return [valueSpan m (Octets.ofNat value.length)]
  | .length, none =>
    let _ ← unset
    return [valueSpan m ['0']]
  | .fallback, some value => return [← parameterSpan m name value]
  | .fallback, none => inner { m with tilde := true, isWord := true } word
  | .alternative, some _ => inner { m with tilde := true, isWord := true } word
  | .alternative, none => return [← parameterSpan m name []]
  | .default, some value | .presence, some value => return [← parameterSpan m name value]
  | .default, none =>
    let text := textOf (← inner .plain word)
    setVariable name (some text) false
    return [← parameterSpan m name text]
  | .presence, none =>
    let text := textOf (← inner .plain word)
    let reason := if word.isEmpty then "parameter not set".toList ++ (if colon then " or null".toList else [])
      else text
    fail (name ++ ": ".toList ++ reason)
  | .trimmed atEnd longest, some value =>
    let pattern := Wildcard.ofCells (cellsOf (← inner .plain word))
    let kept :=
      if atEnd then (Wildcard.back? pattern longest value).map fun n => value.take (value.length - n)
      else (Wildcard.front? pattern longest value).map fun n => value.drop n
    return [← parameterSpan m name (kept.getD value)]
  | .trimmed _ _, none =>
    let _ ← unset
    return []
  | .unknown, _ => return []

/-- The directory that a tilde with a name stands for. -/
def home? (name : Octets) : Sh (Option Octets) := do
  if name.isEmpty then lookUp? "HOME".toList
  else if name = "root".toList then return some "/root".toList
  else return none

/-- The name behind a tilde, if nothing else follows it up to where it ends. -/
def tildeName? (m : Manner) : Word → Option (Octets × Word)
  | [] => some ([], [])
  | .char c false :: w =>
    if c == '/' || (c == ':' && m.assigns) then some ([], .char c false :: w)
    else (tildeName? m w).map fun p => (c :: p.1, p.2)
  | _ => none

structure WordState where
  /-- The spans, the last first, and the characters of the run that ends here in reverse. -/
  spans : List Span
  run : List Cell
  inQuotes : Bool
  behindName : Bool

namespace WordState

def start : WordState := ⟨[], [], false, false⟩

def close (m : Manner) (s : WordState) : WordState :=
  if s.run.isEmpty then s
  else
    let splitting := if m.isWord && !m.quoted && !s.inQuotes then Splitting.separators else .nowhere
    { s with spans := ⟨s.run.reverse, splitting⟩ :: s.spans, run := [] }

def add (m : Manner) (spans : List Span) (s : WordState) : WordState :=
  let s := s.close m
  { s with spans := spans.reverse ++ s.spans }

end WordState

/-- Expand the parts of a word. A tilde at the front counts if `tilde` is set, and what is left to pass over belongs
to the name behind it. -/
def partSpans (capture : Option Command → Sh Octets) (inner : Manner → Word → Sh (List Span)) (m : Manner) :
    Nat → Bool → Word → WordState → Sh (List Span)
  | 0, _, _, s => return (s.close m).spans.reverse
  | _, _, [], s => return (s.close m).spans.reverse
  | fuel + 1, tilde, part :: word, s => do
    let go (tilde : Bool) (s : WordState) := partSpans capture inner m fuel tilde word s
    let quoted := m.quoted || s.inQuotes
    match part with
    | .char '~' false =>
      match if tilde then tildeName? m word else none with
      | none => go false { s with run := .char '~' false :: s.run }
      | some (name, rest) =>
        match ← home? name with
        | none => go false { s with run := .char '~' false :: s.run }
        | some dir =>
          partSpans capture inner m fuel false rest (s.add m [⟨Cell.guarded dir, .nowhere⟩])
    | .char c false =>
      let names := m.assigns && c == '=' && !s.behindName
      let starts := names || (m.assigns && c == ':')
      let s := { s with run := .char c false :: s.run, behindName := s.behindName || names }
      go starts (if starts then s.close m else s)
    | .char c true => go false (s.add m [⟨[.char c true], .nowhere⟩])
    | .mark =>
      match word with
      | .parameter ['@'] .value false [] :: .mark :: rest =>
        if s.inQuotes then go false { s.add m [⟨[.mark], .nowhere⟩] with inQuotes := false }
        else
          let spans ← parameterSpans inner { m with quoted := true } ['@'] .value false []
          partSpans capture inner m fuel false rest (s.add m spans)
      | _ =>
        let s := s.add m [⟨[.mark], .nowhere⟩]
        go false { s with inQuotes := !s.inQuotes }
    | .parameter name use colon body =>
      let spans ← parameterSpans inner { m with quoted } name use colon body
      go false (s.add m spans)
    | .output body =>
      let text := Text.trimEnd (· == '\n') ((← capture body).filter (· != '\x00'))
      go false (s.add m [valueSpan { m with quoted } text])
    | .arithmetic body =>
      let n ← Arithmetic.value (textOf (← inner .arithmetic body))
      go false (s.add m [valueSpan { m with quoted } (Octets.ofInt n)])

/-- Expand a word, words inside of it being so many levels deep at most. -/
def spansOf (capture : Option Command → Sh Octets) : Nat → Manner → Word → Sh (List Span)
  | 0, _, _ => return []
  | depth + 1, m, word => partSpans capture (spansOf capture depth) m (word.length + 1) m.tilde word .start

/-- How deep words may stand inside of words. -/
def maxDepth : Nat := 1000

def spans (capture : Option Command → Sh Octets) (m : Manner) (word : Word) : Sh (List Span) :=
  spansOf capture maxDepth m word

/-! ## Paths -/

def pathNames : List Cell → List (List Cell)
  | [] => [[]]
  | cell :: cells =>
    match pathNames cells with
    | [] => [[cell]]
    | name :: names => if cell == .char '/' false || cell == .char '/' true then [] :: name :: names
      else (cell :: name) :: names

/-- The paths that match, `front` being the path so far. -/
def matchingPaths (d : Disk) : Octets → List (List Cell) → List Octets
  | _, [] => []
  | front, name :: names =>
    let goOn (n : Octets) : List Octets :=
      if names.isEmpty then [front ++ n] else matchingPaths d (front ++ n ++ ['/']) names
    let text := Cell.text name
    if Wildcard.isIn name then
      match d.locate (if front.isEmpty then ['.'] else front) with
      | .ok place =>
        let pattern := Wildcard.ofCells name
        (d.entries place).flatMap fun n =>
          if (n.head? != some '.' || text.head? == some '.') && Wildcard.accepts pattern n then goOn n else []
      | .error _ => []
    else if names.isEmpty then
      match d.find (front ++ text) with
      | .ok _ => goOn text
      | .error _ => []
    else goOn text

def paths (field : List Cell) : Sh (List Octets) := do
  if !Wildcard.isIn field || (← hasOption 'f') then return [Cell.text field]
  match matchingPaths (← disk) [] (pathNames field) with
  | [] => return [Cell.text field]
  | found => return found.mergeSort Octets.atMost

/-! ## Words -/

def separators : Sh (List Char) := return (← separators?).getD defaultSeparators

def fields (capture : Option Command → Sh Octets) (word : Word) : Sh (List Octets) := do
  let all := Fields.split (← separators) (← spans capture .fields word)
  return (← all.mapM paths).flatten

def text (capture : Option Command → Sh Octets) (m : Manner) (word : Word) : Sh Octets :=
  return textOf (← spans capture m word)

def pattern (capture : Option Command → Sh Octets) (word : Word) : Sh Wildcard :=
  return Wildcard.ofCells (cellsOf (← spans capture .plain word))

end Sh

end ComponentFormat.Shell
