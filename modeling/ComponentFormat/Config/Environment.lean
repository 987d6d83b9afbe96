import ComponentFormat.Options.Layer
import ComponentFormat.Yaml.Load

/-! # Settings of the environment

Variables with the prefixes of the two option families become settings. A value is read as configuration text,
and kept as it is when it cannot be read.
-/
namespace ComponentFormat

structure Settings where
  code : Layer
  html : Layer

namespace Settings

def empty : Settings := ⟨[], []⟩

def codePrefix : String := "SFC_FORMAT_PRETTIER_"

def htmlPrefix : String := "SFC_FORMAT_HTML_"

/-- Where the engines are is no formatting option. -/
def engineVariables : List String :=
  ["SFC_FORMAT_PRETTIER_BIN", "SFC_FORMAT_HTML_BEAUTIFY_BIN"]

/-- The value of a text; a text that is not well formed stands for itself. -/
def decodeValue (raw : Text) : Except Yaml.Unconvertible Value :=
  match Yaml.load raw with
  | .ok v => .ok v
  | .error .malformed => .ok (.ofString (String.ofList raw))
  | .error (.unconvertible u) => .error u

def keyOf (suffix : Text) : Scalar :=
  .str (String.ofList (Key.camelCase (Text.lower suffix)))

def addVariable (s : Settings) (name raw : String) : Except Yaml.Unconvertible Settings := do
  if engineVariables.contains name then return s
  match Text.after? codePrefix.toList name.toList with
  | some suffix => return { s with code := Keyed.put (keyOf suffix) (← decodeValue raw.toList) s.code }
  | none =>
    match Text.after? htmlPrefix.toList name.toList with
    | some suffix => return { s with html := Keyed.put (keyOf suffix) (← decodeValue raw.toList) s.html }
    | none => return s

def ofVariables (vars : List (String × String)) : Except Yaml.Unconvertible Settings :=
  vars.foldlM (fun s v => addVariable s v.1 v.2) empty

def override (lower upper : Settings) : Settings :=
  ⟨Keyed.override lower.code upper.code, Keyed.override lower.html upper.html⟩

end Settings

end ComponentFormat
