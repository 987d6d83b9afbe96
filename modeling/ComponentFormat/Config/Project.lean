import ComponentFormat.Config.Environment
import ComponentFormat.Files.Tree
import ComponentFormat.Notice

/-! # The options of a pass

Built-in values, then the environment's settings, then the configuration file of the project, which speaks for
the code options only. A file that cannot be used counts as absent.
-/
namespace ComponentFormat

/-- Why there are no options at all: a scalar of the configuration file has no value or a key no text, or the file
cannot even be looked for. -/
inductive ResolveError where
  | setting (u : Yaml.Unconvertible)
  | file (e : FileError)
  deriving DecidableEq, Repr

/-- Why a configuration file gives no settings: it cannot be used and counts as absent, or nothing can be
resolved with it. -/
inductive LoadError where
  | config (e : ConfigError)
  | fatal (e : ResolveError)
  deriving DecidableEq, Repr

structure Resolver where
  projectRoot : Option Path
  settings : Settings

structure Resolved where
  options : Options
  notices : List Notice

def configFileName : String := ".prettierrc"

namespace Resolver

/-- An empty project root is none. -/
def rootOf (s : Option String) : Option Path :=
  match s with
  | some "" | none => none
  | some s => some (Path.ofString s)

def configPath? (r : Resolver) : Option Path :=
  r.projectRoot.map (·.child configFileName)

/-- The mapping that a configuration text holds; an empty text holds an empty one. -/
def parseConfig (path : String) (t : Text) : Except LoadError Layer :=
  match Yaml.load (Text.withTerminator ['\n'] t) with
  | .error .malformed => .error (.config (.malformed path))
  | .error (.unconvertible u) => .error (.fatal (.setting u))
  | .ok (.scalar .null) => .ok []
  | .ok (.map entries) => .ok entries
  | .ok v => .error (.config (.notMapping path v.kindName))

def loadConfig (r : Resolver) (files : FileTree) : Except LoadError Layer :=
  match r.configPath? with
  | none => .ok []
  | some path =>
    match files.isFile path with
    | .error e => .error (.fatal (.file e))
    | .ok false => .ok []
    | .ok true =>
      match files.readText path with
      | .ok t => parseConfig path.toString t
      | .error _ => .error (.config (.unreadable path.toString))

def codeLayer (r : Resolver) (project : Layer) : Layer :=
  Keyed.override r.settings.code project

def build (r : Resolver) (project : Layer) (notices : List Notice) : Resolved :=
  let o := Options.build (r.codeLayer project) r.settings.html .default
  ⟨o.1, notices ++ o.2.map .optionIgnored⟩

def finish (r : Resolver) (project : Layer) (notices : List Notice) : Except ResolveError Resolved :=
  match Options.build? (r.codeLayer project) r.settings.html .default with
  | some o => .ok ⟨o.1, notices ++ o.2.map .optionIgnored⟩
  | none => .error (.setting .outOfRange)

theorem finish_eq (r : Resolver) (project : Layer) (notices : List Notice) : r.finish project notices =
    if (r.codeLayer project ++ r.settings.html).all (·.1.hasText) then .ok (r.build project notices)
    else .error (.setting .outOfRange) := by
  unfold finish Options.build?
  by_cases h : (r.codeLayer project ++ r.settings.html).all (·.1.hasText)
  · rw [if_pos h, if_pos h]
    rfl
  · rw [if_neg h, if_neg h]

def resolve (r : Resolver) (files : FileTree) : Except ResolveError Resolved :=
  match r.loadConfig files with
  | .ok project => r.finish project []
  | .error (.config e) => r.finish [] [.configIgnored e]
  | .error (.fatal e) => .error e

end Resolver

/-- A resolver with the options it has come to: it resolves them once and keeps them. -/
structure Resolution where
  resolver : Resolver
  options : Option Options

namespace Resolution

def ofResolver (r : Resolver) : Resolution := ⟨r, none⟩

/-- The options, with what is noticed on the first time. -/
def resolve (s : Resolution) (files : FileTree) : Except ResolveError (Resolved × Resolution) :=
  match s.options with
  | some o => .ok (⟨o, []⟩, s)
  | none => (s.resolver.resolve files).map fun r => (r, { s with options := some r.options })

end Resolution

end ComponentFormat
