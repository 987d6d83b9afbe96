import ComponentFormat.Text.Basic

/-! # Structural faults of a component

Why a text is no component, and where: a failure keeps the text from the fault on, so that the same fault
behind a longer lead-in is the same value.
-/
namespace ComponentFormat

/-- The blocks of which a component holds at most one. -/
inductive Singleton where
  | template
  | script
  | scriptSetup
  deriving DecidableEq, Repr

def Singleton.element : Singleton → String
  | template => "template"
  | script => "script"
  | scriptSetup => "script setup"

inductive Fault where
  | unterminatedComment
  | unterminatedDeclaration
  | strayClosing (name : Text)
  | missingEnd (name : Text)
  | misnested (closing opened : Text)
  | repeated (block : Singleton)
  deriving DecidableEq, Repr

namespace Fault

def message : Fault → String
  | unterminatedComment => "Unterminated comment"
  | unterminatedDeclaration => "Unterminated declaration"
  | strayClosing name => s!"Unexpected closing tag </{String.ofList name}>"
  | missingEnd name => s!"Element <{String.ofList name}> is missing end tag"
  | misnested closing opened =>
    s!"Unbalanced tags: </{String.ofList closing}> closes <{String.ofList opened}>"
  | repeated block => s!"Single file component can contain only one <{block.element}> element"

end Fault

/-- A fault, and the text from the place where it is reported. -/
structure Failure where
  fault : Fault
  rest : Text
  deriving DecidableEq, Repr

/-- A message with the line it is about, where one is known. -/
def withLine (message : String) : Option Int → String
  | none => message
  | some line => s!"{message} (line {line})"

structure ParseError where
  fault : Fault
  /-- Counted from one. -/
  line : Nat
  deriving DecidableEq, Repr

def ParseError.message (e : ParseError) : String :=
  withLine e.fault.message (some e.line)

end ComponentFormat
