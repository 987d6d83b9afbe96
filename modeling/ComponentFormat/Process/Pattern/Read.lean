import ComponentFormat.Process.Pattern.Basic

/-! # The two ways to write patterns

In the basic way the characters that group, count and choose stand behind a backslash, and what cannot repeat
anything stands for itself; in the extended way they stand alone. Sets in brackets are the same in both.
-/
namespace ComponentFormat

namespace Pattern

inductive Error where
  | invalid
  | badCollation
  | badClass
  | trailingBackslash
  | badReference
  | openBracket
  | openGroup
  | openCount
  | badCount
  | badRange
  | badRepetition
  | tooBig
  | closedGroup
  deriving DecidableEq, Repr

def Error.message : Error → String
  | invalid => "Invalid regular expression"
  | badCollation => "Invalid collation character"
  | badClass => "Invalid character class name"
  | trailingBackslash => "Trailing backslash"
  | badReference => "Invalid back reference"
  | openBracket => "Unmatched [, [^, [:, [., or [="
  | openGroup => "Unmatched ( or \\("
  | openCount => "Unmatched \\\x7b"
  | badCount => "Invalid content of \\\x7b\\\x7d"
  | badRange => "Invalid range end"
  | badRepetition => "Invalid preceding regular expression"
  | tooBig => "Regular expression too big"
  | closedGroup => "Unmatched ) or \\)"

structure Manner where
  extended : Bool
  ignoresCase : Bool
  multiline : Bool
  deriving DecidableEq, Repr

def Manner.fold (m : Manner) (g : Glyph) : Glyph := if m.ignoresCase then g.raise else g

inductive Token where
  | glyph (g : Glyph)
  | any
  | edge (e : Edge)
  | set
  | opens
  | closes
  | either
  | star
  | plus
  | question
  | openCount
  | closeCount
  | again (n : Nat)
  | named (negated : Bool) (items : List GlyphItem)
  | backslash
  | ending
  deriving DecidableEq, Repr

namespace Token

def wordItems : List GlyphItem := [.named .alnum, .one (.char '_')]

/-- What a character stands for behind a backslash; `operators` is whether it takes one to make an operator. -/
def escaped (operators : Bool) (c : Char) : Token :=
  match c with
  | '<' => edge .wordStart
  | '>' => edge .wordEnd
  | 'b' => edge .wordEdge
  | 'B' => edge .noWordEdge
  | '\x60' => edge .textStart
  | '\'' => edge .textEnd
  | 'w' => named false wordItems
  | 'W' => named true wordItems
  | 's' => named false [.named .space]
  | 'S' => named true [.named .space]
  | '|' => if operators then either else glyph (.char c)
  | '(' => if operators then opens else glyph (.char c)
  | ')' => if operators then closes else glyph (.char c)
  | '\x7b' => if operators then openCount else glyph (.char c)
  | '\x7d' => if operators then closeCount else glyph (.char c)
  | '+' => if operators then plus else glyph (.char c)
  | '?' => if operators then question else glyph (.char c)
  | c => if '1' ≤ c && c ≤ '9' then again (c.toNat - '0'.toNat) else glyph (.char c)

/-- What a character stands for alone. `starts` is whether an alternative starts here, `ends` whether one ends behind
the character. -/
def plain (extended starts ends : Bool) (c : Char) : Token :=
  match c with
  | '*' => star
  | '[' => set
  | '.' => any
  | '^' => if extended || starts then edge .lineStart else glyph (.char c)
  | '$' => if extended || ends then edge .lineEnd else glyph (.char c)
  | '|' => if extended then either else glyph (.char c)
  | '(' => if extended then opens else glyph (.char c)
  | ')' => if extended then closes else glyph (.char c)
  | '\x7b' => if extended then openCount else glyph (.char c)
  | '\x7d' => if extended then closeCount else glyph (.char c)
  | '+' => if extended then plus else glyph (.char c)
  | '?' => if extended then question else glyph (.char c)
  | c => glyph (.char c)

/-- An alternative of the basic way ends here. -/
def endsAlternative : List Glyph → Bool
  | [] => true
  | .char '\\' :: .char c :: _ => c == '|' || c == ')'
  | _ => false

def next (extended starts : Bool) : List Glyph → Token × List Glyph
  | [] => (ending, [])
  | [.char '\\'] => (backslash, [])
  | .char '\\' :: .char c :: t => (escaped (!extended) c, t)
  | .char '\\' :: g :: t => (glyph g, t)
  | .char c :: t => (plain extended starts (endsAlternative t) c, t)
  | g :: t => (glyph g, t)

def repeats : Token → Bool
  | star | plus | question | openCount => true
  | _ => false

end Token

namespace Bracket

inductive Element where
  | glyph (g : Glyph)
  /-- A character that has a name of its own. -/
  | symbol (name : List Glyph)
  | equivalents (name : List Glyph)
  | named (name : List Glyph)

/-- The name up to the mark and a closing bracket. -/
def name (mark : Glyph) : Nat → List Glyph → List Glyph → Except Error (List Glyph × List Glyph)
  | 0, _, _ => .error .openBracket
  | fuel + 1, found, t =>
    match t with
    | [] | [_] => .error .openBracket
    | g :: .char ']' :: t =>
      if g = mark then .ok (found.reverse, t) else name mark fuel (g :: found) (.char ']' :: t)
    | g :: t => name mark fuel (g :: found) t

/-- The most bytes that a name may have, with its end. -/
def maxName : Nat := 32

/-- An element, a hyphen being one where `hyphens` is set or nothing but a closing bracket follows. -/
def element (hyphens : Bool) : List Glyph → Except Error (Element × List Glyph)
  | [] => .error .openBracket
  | .char '[' :: .char '.' :: t => (name (.char '.') maxName [] t).map fun p => (.symbol p.1, p.2)
  | .char '[' :: .char '=' :: t => (name (.char '=') maxName [] t).map fun p => (.equivalents p.1, p.2)
  | .char '[' :: .char ':' :: t => (name (.char ':') maxName [] t).map fun p => (.named p.1, p.2)
  | .char '-' :: .char '-' :: .char '-' :: t => .ok (.glyph (.char '-'), t)
  | .char '-' :: t =>
    if hyphens || t.head? == some (.char ']') then .ok (.glyph (.char '-'), t) else .error .badRange
  | g :: t => .ok (.glyph g, t)

def isRange : List Glyph → Bool
  | .char '-' :: .char '-' :: .char '-' :: _ => false
  | .char '-' :: _ => true
  | _ => false

def narrow? : List Glyph → Option Glyph
  | [g] => if g.spelling.length = 1 then some g else none
  | _ => none

def Element.isClass : Element → Bool
  | .equivalents _ | .named _ => true
  | .glyph _ | .symbol _ => false

def rangeEnd? (m : Manner) (e : Element) : Option Char :=
  let g := match e with
    | .glyph g => some g
    | .symbol n => narrow? n
    | .equivalents _ | .named _ => none
  match g.map m.fold with
  | some (.char c) => some c
  | some (.stray _) | none => none

def range (m : Manner) (first last : Element) : Except Error GlyphItem :=
  if first.isClass || last.isClass then .error .badRange
  else match rangeEnd? m first, rangeEnd? m last with
    | some a, some b => if a ≤ b then .ok (.range a b) else .error .badRange
    | _, _ => .error .badCollation

def item (m : Manner) : Element → Except Error GlyphItem
  | .glyph g => .ok (.one (m.fold g))
  | .symbol n | .equivalents n =>
    match narrow? n with
    | some g => .ok (.one (m.fold g))
    | none => .error .badCollation
  | .named n =>
    match GlyphClass.named? (Octets.spelling n) with
    | some k => .ok (.named (if m.ignoresCase && (k = .upper || k = .lower) then .alpha else k))
    | none => .error .badClass

def items (m : Manner) : Nat → Bool → List Glyph → Except Error (List GlyphItem × List Glyph)
  | 0, _, _ => .error .openBracket
  | fuel + 1, first, t => do
    match first, t with
    | false, .char ']' :: t => return ([], t)
    | _, t =>
      let (e, t) ← element first t
      let single := !e.isClass
      if single && t.isEmpty then throw .openBracket
      let (i, t) ←
        if single && isRange t then
          match t.tail with
          | [] => throw .openBracket
          | .char ']' :: _ => do
            let i ← item m e
            pure (i, t)
          | u => do
            let (e', u) ← element true u
            let i ← range m e e'
            pure (i, u)
        else do
          let i ← item m e
          pure (i, t)
      if t.isEmpty then throw .openBracket
      let (more, t) ← items m fuel false t
      return (i :: more, t)

/-- A set of single glyphs that looks like the name of a class without its brackets. -/
def isMisleading (items : List GlyphItem) (written : List Glyph) : Bool :=
  let colon : GlyphItem := .one (.char ':')
  items.length == written.length && items.head? == some colon && items.getLast? == some colon &&
    items.any (· != colon)

/-- The set behind an opening bracket, and whether it is misleading. -/
def read (m : Manner) (t : List Glyph) : Except Error (GlyphTest × Bool × List Glyph) := do
  let (negated, t) := match t with
    | .char '^' :: t => (true, t)
    | _ => (false, t)
  if t.isEmpty then throw .invalid
  let (is, rest) ← items m (t.length + 1) true t
  let misleading := isMisleading is (t.take (t.length - rest.length - 1))
  return (.set negated (if negated && m.multiline then .one (.char '\n') :: is else is), misleading, rest)

end Bracket

/-- The state of reading: the token at hand, what follows it, how many groups have been opened, those that have
been closed, and whether a set was misleading. -/
structure Reading where
  token : Token
  rest : List Glyph
  groups : Nat
  closed : List Nat
  misleads : Bool

def maxCount : Nat := 0x7FFF

namespace Reading

/-- Go on to the next token, at the start of an alternative or not. -/
def advance (m : Manner) (starts : Bool) (r : Reading) : Reading :=
  let (token, rest) := Token.next m.extended starts r.rest
  { r with token, rest }

inductive Count where
  | nothing
  | number (n : Nat)
  | bad
  deriving DecidableEq

/-- Read a number up to a comma or the end of the count; `bad` at the end of the pattern. -/
def count (m : Manner) : Nat → Count → Reading → Count × Reading
  | 0, _, r => (.bad, r)
  | fuel + 1, n, r =>
    let r := r.advance m false
    match r.token with
    | .ending => (.bad, r)
    | .closeCount | .glyph (.char ',') => (n, r)
    | .glyph (.char c) =>
      let n := match n with
        | .bad => .bad
        | .nothing => if isAsciiDigit c then .number (c.toNat - '0'.toNat) else .bad
        | .number n =>
          if isAsciiDigit c then .number (min (maxCount + 1) (n * 10 + (c.toNat - '0'.toNat))) else .bad
      count m fuel n r
    | _ => count m fuel .bad r

/-- The bounds of a count behind its opening brace; the token at hand is the closing one at last. -/
def bounds (m : Manner) (r : Reading) : Except Error ((Nat × Option Nat) × Reading) := do
  let (first, r) := count m (r.rest.length + 1) .nothing r
  let isComma := r.token = .glyph (.char ',')
  let least ← match first with
    | .nothing => if isComma then pure (some 0) else throw .badCount
    | .number n => pure (some n)
    | .bad => pure none
  let (last, r) : Count × Reading := match least with
    | none => (.bad, r)
    | some n =>
      if r.token = .closeCount then (.number n, r)
      else if isComma then count m (r.rest.length + 1) .nothing r
      else (.bad, r)
  match least, last with
  | some least, .nothing =>
    if r.token ≠ .closeCount then throw .badCount
    else if maxCount < least then throw .tooBig
    else return ((least, none), r)
  | some least, .number most =>
    if most < least || r.token ≠ .closeCount then throw .badCount
    else if maxCount < most then throw .tooBig
    else return ((least, some most), r)
  | _, _ => throw (if r.token = .ending then .openCount else .badCount)

/-- The repetitions behind a pattern; `none` is a pattern that is nothing at all. -/
def repetitions (m : Manner) : Nat → Option Pattern → Reading → Except Error (Option Pattern × Reading)
  | 0, p, r => .ok (p, r)
  | fuel + 1, p, r => do
    if !r.token.repeats then return (p, r)
    let ((least, most), r) ← match r.token with
      | .plus => pure ((1, none), r)
      | .question => pure ((0, some 1), r)
      | .openCount => bounds m r
      | _ => pure ((0, none), r)
    let r := r.advance m false
    let p := if most = some 0 then none else p.map fun p => counted p least most
    if !m.extended && (r.token = .star || r.token = .openCount) then throw .badRepetition
    repetitions m fuel p r

def orEmpty (p : Option Pattern) : Pattern := p.getD .empty

mutual

/-- Alternatives up to the end or to the end of the group. -/
def alternatives (m : Manner) : Nat → Bool → Reading → Except Error (Option Pattern × Reading)
  | 0, _, _ => .error .tooBig
  | fuel + 1, inGroup, r => do
    let (p, r') ← branch m fuel inGroup none r
    moreAlternatives m fuel inGroup r.closed p r'

/-- The alternatives behind the first ones, `closed` being the groups that were closed before them. -/
def moreAlternatives (m : Manner) :
    Nat → Bool → List Nat → Option Pattern → Reading → Except Error (Option Pattern × Reading)
  | 0, _, _, _, _ => .error .tooBig
  | fuel + 1, inGroup, closed, p, r => do
    if r.token ≠ .either then return (p, r)
    let r := r.advance m true
    if r.token = .either || r.token = .ending || (inGroup && r.token = .closes) then
      moreAlternatives m fuel inGroup closed (some (.either (orEmpty p) .empty)) r
    else do
      let (q, r') ← branch m fuel inGroup none { r with closed }
      moreAlternatives m fuel inGroup closed (some (.either (orEmpty p) (orEmpty q)))
        { r' with closed := r'.closed ++ r.closed }

def branch (m : Manner) : Nat → Bool → Option Pattern → Reading → Except Error (Option Pattern × Reading)
  | 0, _, _, _ => .error .tooBig
  | fuel + 1, inGroup, p, r => do
    let (q, r) ← expression m fuel r
    let p := match p, q with
      | some p, some q => some (.append p q)
      | some p, none => some p
      | none, q => q
    if r.token = .either || r.token = .ending || (inGroup && r.token = .closes) then return (p, r)
    branch m fuel inGroup p r

def expression (m : Manner) : Nat → Reading → Except Error (Option Pattern × Reading)
  | 0, _ => .error .tooBig
  | fuel + 1, r => do
    let literal (g : Glyph) (r : Reading) : Except Error (Option Pattern × Reading) :=
      repetitions m fuel (some (.test (.only (m.fold g)))) (r.advance m false)
    let stray (c : Char) : Except Error (Option Pattern × Reading) :=
      if m.extended then throw .badRepetition else literal (.char c) r
    match r.token with
    | .glyph g => literal g r
    | .any =>
      let t := if m.multiline then .set true [.one (.char '\n')] else .any
      repetitions m fuel (some (.test t)) (r.advance m false)
    | .named negated items => repetitions m fuel (some (.test (.set negated items))) (r.advance m false)
    | .set =>
      let (t, misleading, rest) ← Bracket.read m r.rest
      let r := { r with rest, misleads := r.misleads || misleading }
      repetitions m fuel (some (.test t)) (r.advance m false)
    | .opens =>
      let n := r.groups + 1
      let r := { r with groups := n }.advance m true
      let (p, r) ← if r.token = .closes then pure (none, r) else alternatives m fuel true r
      if r.token ≠ .closes then throw .openGroup
      let r := { r with closed := n :: r.closed }
      repetitions m fuel (some (.group n false (orEmpty p))) (r.advance m false)
    | .again n =>
      if r.closed.contains n then repetitions m fuel (some (.again n)) (r.advance m false)
      else throw .badReference
    | .edge e => return (some (.edge e), r.advance m false)
    | .openCount => throw .badRepetition
    | .star => stray '*'
    | .plus => stray '+'
    | .question => stray '?'
    | .closes => throw .closedGroup
    | .closeCount => literal (.char '\x7d') r
    | .backslash => throw .trailingBackslash
    | .either | .ending => return (none, r)

end

end Reading

end Pattern

structure Expression where
  pattern : Pattern
  groups : Nat
  manner : Pattern.Manner
  /-- A set in it looks like the name of a class. -/
  misleads : Bool
  deriving DecidableEq, Repr

namespace Expression

open Pattern

def read (m : Manner) (text : List Glyph) : Except Error Expression := do
  let start := (Reading.mk .ending text 0 [] false).advance m true
  let (p, r) ← Reading.alternatives m (4 * text.length + 8) false start
  return ⟨p.getD .empty, r.groups, m, r.misleads⟩

def search (e : Expression) (text : List Glyph) (position : Nat) : Option Match :=
  Pattern.search ⟨text.map e.manner.fold, e.manner.multiline, !e.pattern.refersBack⟩ e.pattern position

/-- Whether nothing at all is a match between two bytes of a character. -/
def matchesInside (e : Expression) : Bool :=
  let byte : Glyph := .stray '\x80'
  let inside : Spot := ⟨1, some byte, [byte], [], []⟩
  !e.manner.ignoresCase && e.pattern.isByteWise &&
    !(spots ⟨[byte, byte], false, !e.pattern.refersBack⟩ e.pattern inside).isEmpty

end Expression

end ComponentFormat
