import ComponentFormat.Component.Basic
import ComponentFormat.Notice
import ComponentFormat.Sorted

/-! # The regions of a document

Template, scripts and styles become regions on the whole lines they stand on. Regions never share a line: of
two that would, the one that starts on the later line gives way, and on one line the later kind.
-/
namespace ComponentFormat

structure Extraction where
  regions : List Region
  notices : List Notice
  deriving DecidableEq, Repr

namespace Document

/-- The lines from the start of line `first` to the end of line `last`. -/
def linesText (d : Document) (first last : Nat) : Text :=
  match d.extent? first, d.extent? last with
  | some a, some b => d.cut a.start b.stop
  | _, _ => []

def startOf (d : Document) (line : Nat) : Nat :=
  ((d.extent? line).map Extent.start).getD 0

end Document

namespace Region

def ofBlock (d : Document) (kind : RegionKind) (p : Placed) : Region :=
  let span := LineSpan.covering (d.place p.start).1 (d.place p.stop).1
  let origin : Int := d.startOf span.first
  { kind, span
    lang := p.block.lang
    content := p.block.content
    full := d.linesText span.first span.last
    contentStart := some (p.contentStart - origin)
    contentEnd := some (p.contentEnd - origin)
    terminator := d.terminator.text }

/-- The blocks to format, kind by kind. -/
def candidates (d : Document) (c : Component) : List Region :=
  (c.inSlot (.single .template)).map (ofBlock d .markup) ++
    (c.inSlot (.single .script)).map (ofBlock d .script) ++
    (c.inSlot (.single .scriptSetup)).map (ofBlock d .scriptSetup) ++
    c.styles.map (ofBlock d .style)

def inOrder (regions : List Region) : List Region :=
  Sorted.ofList (·.span.first) regions

end Region

namespace Extraction

/-- Keep a region unless it shares a line with the one kept last. -/
def keepApart (last : Option Region) : List Region → Extraction
  | [] => ⟨[], []⟩
  | r :: more =>
    let kept : Extraction :=
      let e := keepApart (some r) more
      ⟨r :: e.regions, e.notices⟩
    match last with
    | none => kept
    | some k =>
      if k.span.overlaps r.span then
        let e := keepApart last more
        ⟨e.regions, .sharedLine r.kind r.span k.kind :: e.notices⟩
      else kept

/-- A document that is no component has no regions. -/
def ofDocument (d : Document) : Extraction :=
  match Component.ofText d.text with
  | .error e => ⟨[], [.unparsable d.label e]⟩
  | .ok c => keepApart none (Region.inOrder (Region.candidates d c))

end Extraction

end ComponentFormat
