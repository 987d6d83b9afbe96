import ComponentFormat.Process.Octets

/-! # Shell commands as trees

A word is a row of parts. What quotes do to a word stays in it: the places of the quotes are marked, and characters
that would mean something else without them are guarded.
-/
namespace ComponentFormat.Shell

inductive ParameterUse where
  | value
  | length
  /-- A word in place of a missing value. -/
  | fallback
  /-- A word in place of a value that is there. -/
  | alternative
  /-- A value for a parameter that has none. -/
  | default
  /-- That there is a value. -/
  | presence
  /-- The value without what a pattern matches at one of its ends. -/
  | trimmed (atEnd longest : Bool)
  | unknown
  deriving DecidableEq, Repr

inductive FileMode where
  | read
  | write
  /-- To write, though files are to be kept. -/
  | overwrite
  | append
  | update
  deriving DecidableEq, Repr

mutual

inductive Part where
  | char (c : Char) (guarded : Bool)
  | mark
  | parameter (name : Octets) (use : ParameterUse) (colon : Bool) (word : List Part)
  | output (body : Option Command)
  | arithmetic (body : List Part)

inductive Redirection where
  | file (stream : Nat) (mode : FileMode) (name : List Part)
  | duplicate (stream : Nat) (target : List Part)
  /-- A text of the script, by its number. -/
  | document (stream number : Nat) (expands : Bool)

inductive Command where
  | simple (line : Nat) (assignments words : List (List Part)) (redirections : List Redirection)
  | pipeline (commands : List Command) (waits : Bool)
  | redirected (line : Nat) (body : Command) (redirections : List Redirection)
  | subshell (line : Nat) (body : Option Command) (redirections : List Redirection)
  | background (line : Nat) (body : Command) (redirections : List Redirection)
  | both (first second : Command)
  | either (first second : Command)
  | sequence (first second : Command)
  | negation (body : Command)
  | conditional (test : Option Command) (success failure : Option Command)
  | loop (ends : Bool) (test body : Option Command)
  | each (line : Nat) (name : Octets) (words : List (List Part)) (body : Option Command)
  | choice (line : Nat) (subject : List Part) (branches : List (List (List Part) × Option Command))
  | definition (line : Nat) (name : Octets) (body : Command)

end

abbrev Word := List Part

namespace Part

/-- The quotation of all arguments, each being a word. -/
def quotedArguments : Word := [mark, parameter ['@'] .value false [], mark]

/-- A word's characters as they are written, with a placeholder for what is no plain character. -/
def literal : Word → Octets
  | [] => []
  | char c false :: w => c :: literal w
  | _ :: w => '\x00' :: literal w

def unquoted : Word → Octets
  | [] => []
  | char c _ :: w => c :: unquoted w
  | _ :: w => unquoted w

end Part

/-! ## Names -/

def startsName (c : Char) : Bool := isAsciiLetter c || c == '_'

def continuesName (c : Char) : Bool := startsName c || isAsciiDigit c

def nameOf (t : Octets) : Octets × Octets :=
  match t with
  | c :: _ => if startsName c then (t.takeWhile continuesName, t.dropWhile continuesName) else ([], t)
  | [] => ([], [])

def isName (t : Octets) : Bool := !t.isEmpty && (nameOf t).2.isEmpty

def isAssignment (t : Octets) : Bool :=
  let (name, rest) := nameOf t
  !name.isEmpty && rest.head? == some '='

/-- Characters that name a parameter of their own. -/
def isSpecialParameter (c : Char) : Bool :=
  ['#', '?', '$', '!', '-', '*', '@'].contains c || isAsciiDigit c

end ComponentFormat.Shell
