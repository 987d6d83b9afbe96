import ComponentFormat.Engine.Handler
import ComponentFormat.Region.Extraction

/-! # A formatting pass

Each region of a document is formatted on its own: at most one engine call, one outcome. A failing engine
fails its own region only.
-/
namespace ComponentFormat

/-- What happened besides the result, in order. -/
structure Trace where
  calls : List Call
  notices : List Notice
  deriving DecidableEq, Repr

namespace Trace

def empty : Trace := ⟨[], []⟩

def append (s t : Trace) : Trace :=
  ⟨s.calls ++ t.calls, s.notices ++ t.notices⟩

instance : Append Trace := ⟨append⟩

def notice (n : Notice) : Trace := ⟨[], [n]⟩

end Trace

/-- The engine's output for a region: empty when there is nothing to do, none after a failure. -/
structure Formatted where
  text : Option Text
  trace : Trace
  deriving DecidableEq, Repr

namespace Region

/-- The engine call for a region. A blank content has none, nor has a language without a parser. -/
def call? (r : Region) : Option Call :=
  let h := Handler.forKind r.kind
  if Text.isAllBlank r.content then none
  else (h.selectParser r.lang).map fun parser =>
    Call.to h.family parser (if h.splices then r.content else r.full)

/-- Where the engine is called from; the parser is the one selected, for markup too. -/
def site (r : Region) : CallSite :=
  ⟨r.kind, r.lang, ((Handler.forKind r.kind).selectParser r.lang).getD [], r.lineNumber⟩

def format (e : Engines) (o : Options) (r : Region) : Formatted :=
  match r.call? with
  | none => ⟨some [], .empty⟩
  | some call =>
    match e.run o call with
    | .text t => ⟨some t, ⟨[call], []⟩⟩
    | .nothing => ⟨none, ⟨[call], []⟩⟩
    | .refused message => ⟨none, ⟨[call], [.engineRefused r.site message]⟩⟩
    | .crashed => ⟨none, ⟨[call], [.engineCrashed r.site]⟩⟩

/-- Format the region and compare. Content that is not at its place leaves the region alone. -/
def attempt (e : Engines) (o : Options) (r : Region) : Outcome × Trace :=
  let f := r.format e o
  match Outcome.ofFormatted r f.text (Handler.forKind r.kind).splices with
  | .ok outcome => (outcome, f.trace)
  | .error (.splice err) =>
    (⟨r, f.text.getD [], .failed, []⟩, f.trace ++ .notice (.leftUntouched r.kind r.lineNumber err))
  | .error (.terminator _) => (⟨r, f.text.getD [], .failed, []⟩, f.trace)

end Region

structure Pass where
  outcomes : List Outcome
  trace : Trace
  deriving DecidableEq, Repr

namespace Pass

/-- The answers may differ from region to region, as those of engines with a memory do. -/
def ofRegions (e : Region → Engines) (o : Options) (regions : List Region) : Pass :=
  let attempts := regions.map fun r => r.attempt (e r) o
  ⟨attempts.map Prod.fst,
    ⟨attempts.flatMap (·.2.calls), attempts.flatMap (·.2.notices)⟩⟩

def ofExtractionBy (e : Region → Engines) (o : Options) (x : Extraction) : Pass :=
  let p := ofRegions e o x.regions
  { p with trace := ⟨[], x.notices⟩ ++ p.trace }

def ofExtraction (e : Engines) : Options → Extraction → Pass :=
  ofExtractionBy fun _ => e

def ofDocumentBy (e : Region → Engines) (o : Options) (d : Document) : Pass :=
  ofExtractionBy e o (Extraction.ofDocument d)

def ofDocument (e : Engines) : Options → Document → Pass :=
  ofDocumentBy fun _ => e

def edits (p : Pass) : List Edit :=
  p.outcomes.filterMap Outcome.edit?

end Pass

end ComponentFormat
