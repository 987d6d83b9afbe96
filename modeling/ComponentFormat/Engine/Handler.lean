import ComponentFormat.Engine.Basic
import ComponentFormat.Region.Basic
import ComponentFormat.Text.Case

/-! # Handlers of the region kinds

A handler picks the parser for the language of a region, names the engine family, and says whether the engine
sees the content alone or the whole lines.
-/
namespace ComponentFormat

structure Handler where
  selectParser : Option Text → Option Text
  family : Family
  /-- The engine formats the content alone, and the result is put back between the tags. -/
  splices : Bool

namespace Handler

/-- Markup has one parser, for HTML in any letter case. -/
def markupParser (lang : Option Text) : Option Text :=
  match lang with
  | none => some "html".toList
  | some l => if Text.lower l = "html".toList then some "html".toList else none

def typedLangs : List Text := ["ts".toList, "tsx".toList, "typescript".toList]

def scriptParser (lang : Option Text) : Text :=
  match lang with
  | none => "babel".toList
  | some l => if typedLangs.contains (Text.lower l) then "babel-ts".toList else "babel".toList

/-- A stylesheet's dialect is its language in lower case; the post-processed dialects are plain CSS. -/
def styleParser (lang : Option Text) : Text :=
  match lang with
  | none | some [] => "css".toList
  | some l =>
    let dialect := Text.lower l
    if dialect = "postcss".toList || dialect = "pcss".toList then "css".toList else dialect

def markup : Handler := ⟨markupParser, .markup, false⟩

def script : Handler := ⟨fun lang => some (scriptParser lang), .code, true⟩

def style : Handler := ⟨fun lang => some (styleParser lang), .stylesheet, true⟩

def forKind : RegionKind → Handler
  | .markup => markup
  | .script | .scriptSetup => script
  | .style => style

end Handler

inductive RegistryError where
  | missing (kind : RegionKind)
  | repeated (kind : RegionKind)
  deriving DecidableEq, Repr

def RegistryError.message : RegistryError → String
  | missing kind =>
    s!"No handler registered for <RegionKind.{kind.tag}: '{kind.label}'>. " ++
      "Did you forget to add a register() call in registrations.py?"
  | repeated kind => s!"Handler already registered for <RegionKind.{kind.tag}: '{kind.label}'>"

/-- A table of handlers that never gives up an entry. -/
abbrev Registry (α : Type) := List (RegionKind × α)

namespace Registry

variable {α : Type}

def get (r : Registry α) (kind : RegionKind) : Except RegistryError α :=
  match Keyed.get? kind r with
  | some a => .ok a
  | none => .error (.missing kind)

def register (r : Registry α) (kind : RegionKind) (a : α) : Except RegistryError (Registry α) :=
  match Keyed.get? kind r with
  | some _ => .error (.repeated kind)
  | none => .ok (Keyed.put kind a r)

end Registry

end ComponentFormat
