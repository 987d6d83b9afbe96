import ComponentFormat.Component.Fault
import ComponentFormat.Config.Error
import ComponentFormat.Options.Layer
import ComponentFormat.Region.Outcome

/-! # Notices

What a pass reports beside its result. A notice is kept as data; its wording is in `Notice.text`.
-/
namespace ComponentFormat

structure CallSite where
  kind : RegionKind
  lang : Option Text
  parser : Text
  /-- Counted from one. -/
  line : Nat
  deriving DecidableEq, Repr

def CallSite.text (s : CallSite) : String :=
  let lang := (s.lang.map String.ofList).getD "None"
  s!"{s.kind.label} region (lang={lang}, parser={String.ofList s.parser}) at line {s.line}"

inductive Notice where
  | unparsable (document : String) (error : ParseError)
  /-- A region was dropped because of the region kept before it. -/
  | sharedLine (kind : RegionKind) (span : LineSpan) (kept : RegionKind)
  | engineRefused (site : CallSite) (message : String)
  | engineCrashed (site : CallSite)
  | leftUntouched (kind : RegionKind) (line : Nat) (error : SpliceError)
  | formatted (document : String) (edits : Nat)
  | wrote (path : String)
  | optionIgnored (rejection : Rejection)
  | configIgnored (error : ConfigError)
  deriving DecidableEq, Repr

namespace Notice

inductive Level where
  | info
  | warning
  | error
  deriving DecidableEq, Repr

def Level.label : Level → String
  | info => "INFO"
  | warning => "WARNING"
  | error => "ERROR"

def level : Notice → Level
  | formatted .. | wrote .. => .info
  | engineCrashed .. => .error
  | _ => .warning

def text : Notice → String
  | unparsable document e => s!"Cannot parse {document}: {e.message}"
  | sharedLine kind span kept =>
    s!"Skipping {kind.label} region at lines {span.first}-{span.last}: " ++
      s!"shares a line with the {kept.label} region"
  | engineRefused site message => s!"Formatter failed for {site.text}: {message}"
  | engineCrashed site => s!"Unexpected formatter error for {site.text}"
  | leftUntouched kind line e => s!"Leaving {kind.label} region at line {line} untouched: {e.message}"
  | formatted document edits => s!"Formatted {document}: {edits} edit(s)"
  | wrote path => s!"Wrote {path}"
  | optionIgnored r => s!"Ignoring option {r.key}: expected {r.expected}"
  | configIgnored e => s!"Ignoring project config: {e.message}"

def render (n : Notice) : String :=
  s!"{n.level.label} {n.text}"

end Notice

end ComponentFormat
