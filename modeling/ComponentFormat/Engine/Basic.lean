import ComponentFormat.Options.Basic
import ComponentFormat.Text.Basic

/-! # Formatting engines

An engine turns a text into a formatted text, or fails. There is one engine for markup, one for code and one
for stylesheets; the last two are told which parser to use.
-/
namespace ComponentFormat

/-- What an engine answers. A refusal is the engine's own report about the text; any other failure is a
crash. -/
inductive Reply where
  | text (t : Text)
  | nothing
  | refused (message : String)
  | crashed
  deriving DecidableEq, Repr

structure Engines where
  markup : Text → Options → Reply
  code : (parser text : Text) → Options → Reply
  stylesheet : (dialect text : Text) → Options → Reply

inductive Family where
  | markup
  | code
  | stylesheet
  deriving DecidableEq, Repr

def Family.label : Family → String
  | markup => "markup"
  | code => "code"
  | stylesheet => "stylesheet"

/-- One use of an engine. The markup engine has a single dialect, so its parser is left empty. -/
structure Call where
  family : Family
  parser : Text
  text : Text
  deriving DecidableEq, Repr

def Call.to (family : Family) (parser text : Text) : Call :=
  match family with
  | .markup => ⟨.markup, [], text⟩
  | _ => ⟨family, parser, text⟩

def Engines.run (e : Engines) (o : Options) (c : Call) : Reply :=
  match c.family with
  | .markup => e.markup c.text o
  | .code => e.code c.parser c.text o
  | .stylesheet => e.stylesheet c.parser c.text o

end ComponentFormat
