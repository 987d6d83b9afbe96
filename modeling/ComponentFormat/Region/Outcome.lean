import ComponentFormat.Document
import ComponentFormat.Region.Basic
import ComponentFormat.Sorted
import ComponentFormat.Text.Replacement

/-! # Outcomes and edits

An engine's output is put back between the tags of its region and compared with what stands there. Only a
difference becomes an edit; edits replace whole lines and may not share one.
-/
namespace ComponentFormat

inductive SpliceError where
  | offsets (kind : RegionKind) (start stop : Int)
  | absent (kind : RegionKind)
  deriving DecidableEq, Repr

def SpliceError.message : SpliceError → String
  | offsets kind start stop =>
    s!"Payload offsets {start}..{stop} do not match the {kind.label} region text"
  | absent kind => s!"Payload not found in the {kind.label} region text"

/-- The lines of the region with a terminator and `formatted` for the content. Without offsets the first
occurrence of the content is taken. -/
def Region.splice (r : Region) (formatted : Text) : Except SpliceError Text :=
  let replacement := r.terminator ++ formatted
  match r.offsets? with
  | some (start, stop) =>
    if Text.slice r.full start stop = r.content then
      .ok (Text.slice r.full 0 start ++ replacement ++ Text.slice r.full stop r.full.length)
    else .error (.offsets r.kind start stop)
  | none =>
    match Text.cut? r.content r.full with
    | some (before, rest) => .ok (before ++ replacement ++ rest)
    | none => .error (.absent r.kind)

inductive OutcomeError where
  | terminator (e : ReplacementError)
  | splice (e : SpliceError)
  deriving DecidableEq, Repr

inductive Status where
  | changed
  | unchanged
  | failed
  deriving DecidableEq, Repr

def Status.label : Status → String
  | changed => "changed"
  | unchanged => "unchanged"
  | failed => "failed"

structure Edit where
  span : LineSpan
  text : Text
  deriving DecidableEq, Repr

/-- What became of one region. The replacement counts only when the status is `changed`. -/
structure Outcome where
  region : Region
  formatted : Text
  status : Status
  replacement : Text
  deriving DecidableEq, Repr

namespace Outcome

def isChanged (o : Outcome) : Bool :=
  o.status == .changed

/-- The edit of a changed outcome; the others have none. -/
def edit? (o : Outcome) : Option Edit :=
  if o.isChanged then some ⟨o.region.span, o.replacement⟩ else none

def noEditMessage : String := "Only changed outcomes produce an edit"

/-- Compare an engine's output with the region. `formatted` is `none` after a failure and empty when there was
nothing to do; with `splices` the output is the content alone, otherwise the whole lines. Escapes count in the
terminator that is written for those of the output. -/
def ofFormatted (r : Region) (formatted : Option Text) (splices : Bool) : Except OutcomeError Outcome :=
  match formatted with
  | none => .ok ⟨r, [], .failed, []⟩
  | some [] => .ok ⟨r, [], .unchanged, []⟩
  | some (c :: t) => do
    let text ← (Text.rewriteTerminators r.terminator (c :: t)).mapError .terminator
    let rebuilt ←
      if splices then (r.splice text).mapError .splice
      else .ok (Text.trimEnd (fun d => d == '\r' || d == '\n') text)
    if rebuilt = r.full then return ⟨r, text, .unchanged, []⟩
    else return ⟨r, text, .changed, rebuilt⟩

end Outcome

inductive EditError where
  | overlapping (upper lower : LineSpan)
  | position (e : PositionError)
  deriving DecidableEq, Repr

def EditError.message : EditError → String
  | overlapping upper lower =>
    s!"Overlapping edits at lines {upper.first}-{upper.last} and {lower.first}-{lower.last}"
  | position e => e.message

namespace Edit

def inOrder (edits : List Edit) : List Edit :=
  Sorted.ofList (·.span.first) edits

def firstOverlap? : List Edit → Option (LineSpan × LineSpan)
  | a :: b :: more =>
    if a.span.overlaps b.span then some (a.span, b.span) else firstOverlap? (b :: more)
  | _ => none

end Edit

namespace Document

/-- Replace the spans of ordered edits from the last one up, so that offsets above stay valid. -/
def replaceUpwards (d : Document) : List Edit → Except PositionError Text
  | [] => .ok d.text
  | e :: more => do
    let t ← d.replaceUpwards more
    let start ← d.lineStart e.span.first
    let stop ← d.lineEnd e.span.last
    return t.take start ++ e.text ++ t.drop stop

def applyEdits (d : Document) (edits : List Edit) : Except EditError Text :=
  let ordered := Edit.inOrder edits
  match Edit.firstOverlap? ordered with
  | some (upper, lower) => .error (.overlapping upper lower)
  | none => (d.replaceUpwards ordered).mapError .position

end Document

end ComponentFormat
