import ComponentFormat.Number
import ComponentFormat.Process.Disk

/-! # Runs of programs

A program reads what it wants of its input, writes, and ends with a status after some time. What it writes to its
two streams is kept in order, for both may lead to one place.
-/
namespace ComponentFormat

structure Surroundings where
  name : Octets
  input : Octets
  disk : Disk
  /-- Why the input cannot be read. -/
  fault : Option DiskError
  hasInput : Bool
  hasOutput : Bool
  deriving Repr

def Surroundings.plain (name input : Octets) : Surroundings := ⟨name, input, Disk.empty, none, true, true⟩

inductive Outlet where
  | output
  | errors
  deriving DecidableEq, Repr

structure Run where
  status : Int
  written : List (Outlet × Octets)
  input : Octets
  disk : Disk
  /-- In milliseconds, beside the time that it waits for its input. -/
  time : Nat
  deriving Repr

namespace Run

/-- A time that does not end, for all that is seen of it. -/
def forever : Nat := Number.tenTo 15

def through (r : Run) (o : Outlet) : Octets :=
  (r.written.filter (·.1 = o)).flatMap Prod.snd

def ends (status : Nat) (s : Surroundings) : Run := ⟨status, [], s.input, s.disk, 0⟩

/-- A run that reads all of its input and writes. -/
def writes (output : Octets) (s : Surroundings) : Run := ⟨0, [(.output, output)], [], s.disk, 0⟩

/-- A line that a program reports under its name. -/
def report (s : Surroundings) (message : Octets) : Outlet × Octets :=
  (.errors, s.name ++ ": ".toList ++ message ++ ['\n'])

def endless (s : Surroundings) : Run := ⟨0, [], s.input, s.disk, forever⟩

def fails (status : Nat) (message : Octets) (s : Surroundings) : Run :=
  ⟨status, [report s message], s.input, s.disk, 0⟩

end Run

/-- A program by what it does with its arguments. -/
abbrev Program := List Octets → Surroundings → Run

def Run.misused (message : Octets) (s : Surroundings) : Run :=
  Run.fails 1 (message ++ "\nTry '".toList ++ s.name ++ " --help' for more information.".toList) s

end ComponentFormat
