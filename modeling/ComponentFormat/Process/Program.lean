import ComponentFormat.Process.Shell.Program
import ComponentFormat.Text.Quotation

/-! # Starting programs

A name with a slash is a path; another one is looked for where programs are. What speaks against starting one is told
by its number and text.
-/
namespace ComponentFormat

inductive StartError where
  | disk (e : DiskError)
  | argumentsTooLong
  deriving DecidableEq, Repr

namespace StartError

def number : StartError → Nat
  | disk e => e.number
  | argumentsTooLong => 7

def text : StartError → String
  | disk e => e.text
  | argumentsTooLong => "Argument list too long"

def message (name : String) (e : StartError) : String :=
  s!"[Errno {e.number}] {e.text}: {String.ofList (Text.quotation name.toList)}"

end StartError

namespace Program

def named? (name : String) : Option Program :=
  match name with
  | "sh" | "dash" => some Shell.run
  | name => Shell.Kernel.program? name

/-- The bytes that an argument may have. -/
def maxArgument : Nat := 131071

def find (name : Octets) (args : List Octets) : Except StartError Program := do
  let d := Disk.empty
  let program ← (
    if Shell.Kernel.isPath name then d.programOf name
    else (d.programIn name (Text.splitAt (· == ':') Shell.searchPath.toList) none).map Prod.fst).mapError .disk
  if (name :: args).any fun a => maxArgument < a.length then throw .argumentsTooLong
  match named? program with
  | some run => return run
  | none => throw (.disk .missing)

end Program

inductive Completion where
  | missing
  /-- The program could not be started, for the reason given. -/
  | refused (reason : String)
  | timedOut
  | exited (status : Int) (output errors : Bytes)
  deriving DecidableEq, Repr

/-- What is seen of a run by one who stops waiting after the given number of milliseconds. -/
def Run.within (r : Run) (limit : Option Int) : Completion :=
  let ended : Completion := .exited r.status (Octets.toBytes (r.through .output)) (Octets.toBytes (r.through .errors))
  match limit with
  | some limit => if limit ≤ r.time then .timedOut else ended
  | none => ended

def Completion.notStarted (name : String) : StartError → Completion
  | .disk .missing => .missing
  | e => .refused (e.message name)

end ComponentFormat
