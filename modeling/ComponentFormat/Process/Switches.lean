import ComponentFormat.Process.Octets

/-! # Switches on a command line

An argument that starts with a hyphen holds switches of one letter each, one that starts with two hyphens names a
switch in full or by an unambiguous beginning; both may carry an argument. Two hyphens alone end the switches.
-/
namespace ComponentFormat

inductive Demand where
  | nothing
  | argument
  | perhaps
  deriving DecidableEq, Repr

/-- A switch with its letter, the names it has beside it, and its demand. The letter tells it apart. -/
structure Switch where
  letter : Char
  hasLetter : Bool
  names : List String
  demand : Demand
  deriving DecidableEq, Repr

inductive SwitchError where
  | unknownLetter (c : Char)
  | unknownName (word : Octets)
  | ambiguous (word : Octets) (names : List String)
  | letterLacksArgument (c : Char)
  | nameLacksArgument (name : String)
  | unexpectedArgument (name : String)
  deriving DecidableEq, Repr

def SwitchError.message : SwitchError → Octets
  | unknownLetter c => "invalid option -- '".toList ++ [c, '\'']
  | unknownName word => "unrecognized option '".toList ++ word ++ ['\'']
  | ambiguous word names =>
    "option '".toList ++ word ++ "' is ambiguous; possibilities:".toList ++
      names.flatMap fun n => " '--".toList ++ n.toList ++ ['\'']
  | letterLacksArgument c => "option requires an argument -- '".toList ++ [c, '\'']
  | nameLacksArgument name => "option '--".toList ++ name.toList ++ "' requires an argument".toList
  | unexpectedArgument name => "option '--".toList ++ name.toList ++ "' doesn't allow an argument".toList

/-- The switches found, by their letters, and the other arguments. -/
structure Switches where
  found : List (Char × Option Octets)
  others : List Octets
  deriving DecidableEq, Repr

namespace Switches

def has (s : Switches) (letter : Char) : Bool := s.found.any (·.1 == letter)

def find (table : List Switch) (letter : Char) : Option Switch :=
  table.find? fun s => s.hasLetter && s.letter == letter

def named (table : List Switch) (word name : Octets) : Except SwitchError (Switch × String) :=
  let all := table.flatMap fun s => s.names.map fun n => (s, n)
  match all.find? (·.2.toList == name) with
  | some found => .ok found
  | none =>
    match all.filter fun p => (Text.after? name p.2.toList).isSome with
    | [] => .error (.unknownName word)
    | first :: more =>
      if more.all fun p => p.1 == first.1 then .ok first
      else .error (.ambiguous word ((first :: more).map Prod.snd))

/-- The switches of an argument with one hyphen, `rest` being the arguments behind it. -/
def readLetters (table : List Switch) (rest : List Octets) :
    Octets → Except SwitchError (List (Char × Option Octets) × List Octets)
  | [] => .ok ([], rest)
  | c :: t =>
    match find table c with
    | none => .error (.unknownLetter c)
    | some s =>
      match s.demand, t, rest with
      | .nothing, t, rest => (readLetters table rest t).map fun p => ((c, none) :: p.1, p.2)
      | .perhaps, t, rest => .ok ([(c, if t.isEmpty then none else some t)], rest)
      | .argument, [], [] => .error (.letterLacksArgument c)
      | .argument, [], a :: rest => .ok ([(c, some a)], rest)
      | .argument, t, rest => .ok ([(c, some t)], rest)

def readName (table : List Switch) (word : Octets) (rest : List Octets) :
    Except SwitchError ((Char × Option Octets) × List Octets) := do
  let (s, name) ← named table word ((word.takeWhile (· != '=')).drop 2)
  let value := match word.dropWhile (· != '=') with
    | _ :: v => some v
    | [] => none
  match s.demand, value, rest with
  | .nothing, some _, _ => throw (.unexpectedArgument name)
  | .nothing, none, rest => return ((s.letter, none), rest)
  | .perhaps, v, rest => return ((s.letter, v), rest)
  | .argument, some v, rest => return ((s.letter, some v), rest)
  | .argument, none, [] => throw (.nameLacksArgument name)
  | .argument, none, a :: rest => return ((s.letter, some a), rest)

/-- Read arguments, each step taking one of the `fuel`. Switches may stand behind other arguments if
`anywhere` is set. -/
def readFrom (table : List Switch) (anywhere : Bool) : Nat → List Octets → Except SwitchError Switches
  | 0, args => .ok ⟨[], args⟩
  | _ + 1, [] => .ok ⟨[], []⟩
  | fuel + 1, a :: rest =>
    match a with
    | ['-', '-'] => .ok ⟨[], rest⟩
    | '-' :: '-' :: _ => do
      let (s, rest) ← readName table a rest
      let more ← readFrom table anywhere fuel rest
      return { more with found := s :: more.found }
    | '-' :: c :: t => do
      let (ss, rest) ← readLetters table rest (c :: t)
      let more ← readFrom table anywhere fuel rest
      return { more with found := ss ++ more.found }
    | _ =>
      if anywhere then (readFrom table anywhere fuel rest).map fun s => { s with others := a :: s.others }
      else .ok ⟨[], a :: rest⟩

def read (table : List Switch) (anywhere : Bool) (args : List Octets) : Except SwitchError Switches :=
  readFrom table anywhere (args.length + 1) args

end Switches

end ComponentFormat
