import ComponentFormat.Config.Project
import ComponentFormat.Formatting.Pass

/-! # Formatting texts and files

One pass over a text or a file: options are resolved anew, the regions are formatted, and the edits are applied
to the same snapshot. A file is written only when asked for and when something changed.
-/
namespace ComponentFormat

inductive ServiceError where
  | file (e : FileError)
  | setting (u : Yaml.Unconvertible)
  | edit (e : EditError)
  deriving DecidableEq, Repr

def ServiceError.ofResolve : ResolveError → ServiceError
  | .setting u => .setting u
  | .file e => .file e

structure Service where
  engines : Engines
  settings : Settings

structure Report (α : Type) where
  result : Except ServiceError α
  trace : Trace

structure FormattedText where
  edits : List Edit
  text : Text
  deriving DecidableEq, Repr

def FormattedText.changed (f : FormattedText) : Bool := !f.edits.isEmpty

structure FormattedFile where
  path : Path
  edits : List Edit
  written : Bool
  deriving DecidableEq, Repr

def FormattedFile.changed (f : FormattedFile) : Bool := !f.edits.isEmpty

namespace Service

/-- The resolver of a pass; a request's own settings stand over those of the environment. -/
def resolver (s : Service) (root : Option Path) (settings : Option Settings) : Resolver :=
  ⟨root, match settings with
    | some upper => s.settings.override upper
    | none => s.settings⟩

def resolveOptions (s : Service) (files : FileTree) (root : Option Path) (settings : Option Settings) :
    Report Options :=
  match (s.resolver root settings).resolve files with
  | .ok r => ⟨.ok r.options, ⟨[], r.notices⟩⟩
  | .error e => ⟨.error (.ofResolve e), .empty⟩

def outcomes (s : Service) (files : FileTree) (d : Document) (root : Option Path)
    (settings : Option Settings) : Report (List Outcome) :=
  let r := s.resolveOptions files root settings
  match r.result with
  | .error e => ⟨.error e, r.trace⟩
  | .ok o =>
    let p := Pass.ofDocument s.engines o d
    ⟨.ok p.outcomes, r.trace ++ p.trace⟩

def formatDocument (s : Service) (files : FileTree) (d : Document) (root : Option Path)
    (settings : Option Settings) : Report (List Edit) :=
  let r := s.outcomes files d root settings
  match r.result with
  | .error e => ⟨.error e, r.trace⟩
  | .ok os =>
    let edits := os.filterMap Outcome.edit?
    ⟨.ok edits, r.trace ++ .notice (.formatted d.label edits.length)⟩

def formatText (s : Service) (files : FileTree) (t : Text) (root : Option Path)
    (settings : Option Settings) : Report FormattedText :=
  let d := Document.ofText t
  let r := s.formatDocument files d root settings
  ⟨do
    let edits ← r.result
    let t ← (d.applyEdits edits).mapError .edit
    return ⟨edits, t⟩, r.trace⟩

def loadDocument (files : FileTree) (p : Path) : Except FileError Document :=
  (files.readText p).map fun t => ⟨p.toString, t⟩

def store (files : FileTree) (p : Path) (d : Document) (edits : List Edit) :
    Except ServiceError FileTree := do
  let t ← (d.applyEdits edits).mapError .edit
  (files.writeText p t).mapError .file

/-- Format a file. The project root defaults to the directory of the file. -/
def formatFile (s : Service) (files : FileTree) (p : Path) (root : Option Path) (write : Bool) :
    Report FormattedFile × FileTree :=
  match loadDocument files p with
  | .error e => (⟨.error (.file e), .empty⟩, files)
  | .ok d =>
    let r := s.formatDocument files d (some (root.getD p.parent)) none
    match r.result with
    | .error e => (⟨.error e, r.trace⟩, files)
    | .ok edits =>
      if write && !edits.isEmpty then
        match store files p d edits with
        | .ok files => (⟨.ok ⟨p, edits, true⟩, r.trace ++ .notice (.wrote p.toString)⟩, files)
        | .error e => (⟨.error e, r.trace⟩, files)
      else (⟨.ok ⟨p, edits, false⟩, r.trace⟩, files)

end Service

end ComponentFormat
