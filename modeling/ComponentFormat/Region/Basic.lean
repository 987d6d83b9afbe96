import ComponentFormat.Text.Basic

/-! # Regions

A region is one block to format together with the whole lines that it stands on. Lines count from zero and a
span holds its last line.
-/
namespace ComponentFormat

inductive RegionKind where
  | markup
  | script
  | scriptSetup
  | style
  deriving DecidableEq, Repr

namespace RegionKind

def label : RegionKind → String
  | markup => "markup"
  | script => "script"
  | scriptSetup => "scriptSetup"
  | style => "style"

/-- The name in capitals that messages about missing or repeated handlers show. -/
def tag : RegionKind → String
  | markup => "MARKUP"
  | script => "SCRIPT"
  | scriptSetup => "SCRIPT_SETUP"
  | style => "STYLE"

def all : List RegionKind := [markup, script, scriptSetup, style]

end RegionKind

structure LineSpan where
  first : Nat
  last : Nat
  first_le_last : first ≤ last
  deriving DecidableEq, Repr

structure SpanError where
  first : Int
  last : Int
  deriving DecidableEq, Repr

def SpanError.message (e : SpanError) : String :=
  s!"Invalid span: {e.first}..{e.last}"

namespace LineSpan

def ofInts (first last : Int) : Except SpanError LineSpan :=
  if h : 0 ≤ first ∧ first ≤ last then .ok ⟨first.toNat, last.toNat, by omega⟩
  else .error ⟨first, last⟩

/-- The lines from `first` on, at least down to `last`. -/
def covering (first last : Nat) : LineSpan :=
  ⟨first, max first last, Nat.le_max_left ..⟩

def length (s : LineSpan) : Nat :=
  s.last - s.first + 1

/-- The most lines whose number is told. -/
def maxCount : Nat := 9223372036854775807

/-- The number of lines, if it can be told. -/
def count? (s : LineSpan) : Option Nat :=
  if s.length ≤ maxCount then some s.length else none

def overlaps (s t : LineSpan) : Bool :=
  s.first ≤ t.last && t.first ≤ s.last

theorem overlaps_iff {s t : LineSpan} :
    s.overlaps t = true ↔ ∃ n, (s.first ≤ n ∧ n ≤ s.last) ∧ t.first ≤ n ∧ n ≤ t.last := by
  have hs := s.first_le_last
  have ht := t.first_le_last
  simp only [overlaps, Bool.and_eq_true, decide_eq_true_eq]
  constructor
  · intro h
    exact ⟨max s.first t.first, by omega⟩
  · rintro ⟨n, h⟩
    omega

end LineSpan

structure Region where
  kind : RegionKind
  lang : Option Text
  span : LineSpan
  /-- The content of the block, without its tags. -/
  content : Text
  /-- The whole lines of the span. -/
  full : Text
  /-- Where the content starts and ends in `full`, if known. -/
  contentStart : Option Int
  contentEnd : Option Int
  /-- The terminator for text written into the span. -/
  terminator : Text
  deriving DecidableEq, Repr

namespace Region

/-- The number that messages give for the region's first line. -/
def lineNumber (r : Region) : Nat :=
  r.span.first + 1

def offsets? (r : Region) : Option (Int × Int) :=
  match r.contentStart, r.contentEnd with
  | some start, some stop => some (start, stop)
  | _, _ => none

end Region

end ComponentFormat
