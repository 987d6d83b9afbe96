import ComponentFormat.Process.Glyph

/-! # Patterns and where they match

A pattern is matched against glyphs from a spot on. All spots that it leads to are found in order of preference,
an earlier choice and a longer repetition being preferred. A match is the leftmost one, of these the longest, and
of these the most preferred, which decides what its groups hold.

Where no pattern refers back to a group, only the first way to a position matters, for what follows does not
depend on the way. So the ways that are kept are never more than the positions.
-/
namespace ComponentFormat

inductive GlyphItem where
  | one (g : Glyph)
  | range (first last : Char)
  | named (k : GlyphClass)
  deriving DecidableEq, Repr

namespace GlyphItem

def holds (i : GlyphItem) (g : Glyph) : Bool :=
  match i, g with
  | .one g', g => g' == g
  | .range first last, .char c => first ≤ c && c ≤ last
  | .range _ _, .stray _ => false
  | .named k, g => g.isIn k

end GlyphItem

inductive GlyphTest where
  | any
  | only (g : Glyph)
  | set (negated : Bool) (items : List GlyphItem)
  deriving DecidableEq, Repr

namespace GlyphTest

/-- A byte that belongs to no character passes only a test for itself. -/
def passes (t : GlyphTest) (g : Glyph) : Bool :=
  match t, g with
  | .only g', g => g' == g
  | .any, .char _ => true
  | .set negated items, .char c => items.any (·.holds (.char c)) != negated
  | .any, .stray _ | .set _ _, .stray _ => false

end GlyphTest

/-- A condition on the glyphs around a position. -/
inductive Edge where
  | lineStart
  | lineEnd
  | textStart
  | textEnd
  | wordStart
  | wordEnd
  | wordEdge
  | noWordEdge
  deriving DecidableEq, Repr

inductive Pattern where
  | empty
  | test (t : GlyphTest)
  | edge (e : Edge)
  | append (p q : Pattern)
  | either (p q : Pattern)
  | many (p : Pattern)
  /-- What the inner pattern matches is kept under a number. An optional group forgets an empty repetition. -/
  | group (n : Nat) (optional : Bool) (p : Pattern)
  /-- The text that a group holds. -/
  | again (n : Nat)
  deriving DecidableEq, Repr

namespace Pattern

abbrev Extents := List (Nat × (Nat × Nat))

/-- A place in a text, and what the groups hold on the way to it. -/
structure Spot where
  position : Nat
  before : Option Glyph
  rest : List Glyph
  extents : Extents
  /-- The extents when a group last held something. -/
  kept : Extents

structure Setting where
  text : List Glyph
  multiline : Bool
  /-- No pattern refers back to a group. -/
  forgetful : Bool

def extent? (n : Nat) (e : Extents) : Option (Nat × Nat) := (e.find? (·.1 == n)).map Prod.snd

def keep (n : Nat) (x : Nat × Nat) (e : Extents) : Extents := (n, x) :: e.filter (·.1 != n)

def Spot.isAtWord (s : Spot) : Bool := s.rest.head?.any Glyph.isWord

def Spot.isBehindWord (s : Spot) : Bool := s.before.any Glyph.isWord

def feed : Glyph := .char '\n'

def Edge.holds (c : Setting) (s : Spot) : Edge → Bool
  | .lineStart => s.before.isNone || (c.multiline && s.before == some feed)
  | .lineEnd => s.rest.isEmpty || (c.multiline && s.rest.head? == some feed)
  | .textStart => s.before.isNone
  | .textEnd => s.rest.isEmpty
  | .wordStart => !s.isBehindWord && s.isAtWord
  | .wordEnd => s.isBehindWord && !s.isAtWord
  | .wordEdge => s.isBehindWord != s.isAtWord
  | .noWordEdge => s.isBehindWord == s.isAtWord

def Spot.step (s : Spot) (g : Glyph) (rest : List Glyph) : Spot :=
  { s with position := s.position + 1, before := some g, rest }

def Spot.advance : Nat → Spot → Spot
  | 0, s => s
  | n + 1, s =>
    match s.rest with
    | [] => s
    | g :: rest => advance n (s.step g rest)

/-- A set of positions, as the number with their bits. -/
abbrev Positions := Nat

def Positions.has (p : Positions) (n : Nat) : Bool := Nat.testBit p n

def Positions.add (p : Positions) (n : Nat) : Positions := p ||| Nat.shiftLeft 1 n

/-- Spots found so far, the last one first, and their positions. -/
abbrev Found := List Spot × Positions

def Found.add (c : Setting) (f : Found) (s : Spot) : Found :=
  if c.forgetful && Positions.has f.2 s.position then f else (s :: f.1, Positions.add f.2 s.position)

/-- The spots, those at the position of an earlier one left out if that does not matter. -/
def distinct (c : Setting) (spots : List Spot) : List Spot :=
  (spots.foldl (Found.add c) ([], 0)).1.reverse

/-- The spots that a test repeated leads to, the farthest first. -/
def repeatTest (t : GlyphTest) : List Spot → Spot → List Glyph → List Spot
  | found, s, [] => s :: found
  | found, s, g :: rest =>
    if t.passes g then repeatTest t (s :: found) (s.step g rest) rest else s :: found

/-- Add the spots that a repeated step leads to, the longest ways first. Positions from which the step was taken
are passed along; a step that stays where it is is taken once. -/
def repeatStep (c : Setting) (step : Spot → List Spot) : Nat → Found → Spot → Found
  | 0, f, s => (s :: f.1, f.2)
  | fuel + 1, f, s =>
    let f := (f.1, Positions.add f.2 s.position)
    let f := (step s).foldl (fun (f : Found) r =>
      if r.position = s.position then (r :: f.1, f.2)
      else if c.forgetful && Positions.has f.2 r.position then f
      else repeatStep c step fuel f r) f
    (s :: f.1, f.2)

/-- What a group holds after its pattern has led from one spot to another. -/
def close (n : Nat) (optional : Bool) (s r : Spot) : Spot :=
  if s.position < r.position then
    let extents := keep n (s.position, r.position) r.extents
    { r with extents, kept := extents }
  else if optional && (extent? n r.kept).isSome then { r with extents := r.kept }
  else { r with extents := keep n (s.position, r.position) r.extents }

/-- The spots that a pattern leads to, the preferred ones first. -/
def spots (c : Setting) : Pattern → Spot → List Spot
  | empty, s => [s]
  | test t, s =>
    match s.rest with
    | g :: rest => if t.passes g then [s.step g rest] else []
    | [] => []
  | edge e, s => if Edge.holds c s e then [s] else []
  | append p q, s => distinct c ((spots c p s).flatMap (spots c q))
  | either p q, s => distinct c (spots c p s ++ spots c q s)
  | many (test t), s => repeatTest t [] s s.rest
  | many p, s => distinct c (repeatStep c (spots c p) (s.rest.length + 1) ([], 0) s).1.reverse
  | group n optional p, s => (spots c p s).map (close n optional s)
  | again n, s =>
    match extent? n s.extents with
    | none => []
    | some (start, stop) =>
      let held := (c.text.drop start).take (stop - start)
      if held.isPrefixOf s.rest then [s.advance held.length] else []

def longest : List Spot → Option Spot
  | [] => none
  | s :: spots =>
    match longest spots with
    | some r => if s.position < r.position then some r else some s
    | none => some s

/-- Where a pattern matches: before `start` nothing does, and the match ends at `stop`. -/
structure Match where
  start : Nat
  stop : Nat
  extents : Extents
  deriving DecidableEq, Repr

def searchFrom (c : Setting) (p : Pattern) : List Glyph → Spot → Option Match
  | rest, s =>
    match longest (spots c p s), rest with
    | some r, _ => some ⟨s.position, r.position, r.extents⟩
    | none, [] => none
    | none, g :: rest => searchFrom c p rest (s.step g rest)

def search (c : Setting) (p : Pattern) (position : Nat) : Option Match :=
  let s := Spot.advance position ⟨0, none, c.text, [], []⟩
  searchFrom c p s.rest s

def refersBack : Pattern → Bool
  | again _ => true
  | append p q | either p q => p.refersBack || q.refersBack
  | many p | group _ _ p => p.refersBack
  | empty | test _ | edge _ => false

/-- A set that lists characters of one byte one by one. -/
def isPlainSet (negated : Bool) (items : List GlyphItem) : Bool :=
  !negated && items.all fun i =>
    match i with
    | .one (.char c) => c.toNat < 0x80
    | _ => false

/-- A pattern that can be matched byte by byte: characters are compared only, and words do not matter. -/
def isByteWise : Pattern → Bool
  | edge e => !(e == .wordStart || e == .wordEnd || e == .wordEdge || e == .noWordEdge)
  | test (.set negated items) => isPlainSet negated items
  | append p q | either p q => p.isByteWise && q.isByteWise
  | many p | group _ _ p => p.isByteWise
  | empty | test _ | again _ => true

def markOptional : Pattern → Pattern
  | group n _ p => group n true p
  | p => p

def times (p : Pattern) : Nat → Pattern
  | 0 => empty
  | 1 => p
  | n + 2 => append (times p (n + 1)) p

def atMost (p : Pattern) : Nat → Pattern
  | 0 => empty
  | 1 => either p empty
  | n + 2 => either (append (atMost p (n + 1)) p) empty

def counted (p : Pattern) (least : Nat) (most : Option Nat) : Pattern :=
  let front := times p least
  let optional := markOptional p
  match most with
  | none => if least = 0 then many optional else append front (many optional)
  | some most =>
    if most ≤ least then front
    else if least = 0 then atMost optional most
    else append front (atMost optional (most - least))

end Pattern

end ComponentFormat
