import ComponentFormat.Process.Run
import ComponentFormat.Process.Shell.Reader

/-! # The state of a shell

A shell has its own variables, functions and open streams, and a world that it shares with the shells and programs
it starts: files, pipes, the clock, and a log of what reached the outlets. What starts beside it runs at once, its
clock starting where it was started.
-/
namespace ComponentFormat.Shell

inductive Stream where
  | input
  | outlet (o : Outlet)
  | null
  | directory
  | full
  /-- What is in a pipe, the pieces written last being the first ones, and when its writers have ended. -/
  | pipe (unread : Octets) (written : List Octets) (ready : Nat)
  | file (place : Place) (position : Nat) (mode : FileMode)
  deriving DecidableEq, Repr

structure LogEntry where
  time : Nat
  process : Nat
  outlet : Outlet
  octets : Octets
  deriving DecidableEq, Repr

structure Job where
  number : Nat
  finish : Nat
  status : Nat
  deriving DecidableEq, Repr

structure Sent where
  process : Nat
  signal : Nat
  time : Nat
  deriving DecidableEq, Repr

structure World where
  input : Octets
  files : List (Place × Octets)
  streams : Array Stream
  /-- The last first. -/
  log : List LogEntry
  /-- In milliseconds. -/
  time : Nat
  /-- How long processes in the background keep the outlets open. -/
  held : Nat
  /-- How many commands may still be run. -/
  steps : Nat
  last : Nat
  signals : List Sent

structure Variable where
  value : Option Octets
  exported : Bool
  fixed : Bool
  deriving DecidableEq, Repr

/-- How a list of commands is left. -/
inductive Skip where
  | none
  | breaks (levels : Nat)
  | continues (levels : Nat)
  /-- The function or script ends, with a status of its own if that was written. -/
  | returns (hasStatus : Bool)
  deriving DecidableEq, Repr

/-- How a list is left around a function or script that returns. -/
def Skip.behindReturn : Skip → Skip
  | returns _ => none
  | s => s

structure Session where
  world : World
  name : Octets
  arguments : List Octets
  bindings : List (Octets × Variable)
  functions : List (Octets × (Nat × Command))
  options : List Char
  traps : List (Nat × Octets)
  /-- The open streams by their numbers. -/
  channels : List (Nat × Nat)
  here : Place
  /-- The number of the process, and the one that it shows. -/
  number : Nat
  shown : Nat
  status : Nat
  /-- The status of the last command whose output was taken. -/
  outputStatus : Nat
  skip : Skip
  loops : Nat
  depth : Nat
  /-- What variables were before they were made local, the last first. -/
  locals : List (List (Octets × Option Variable))
  /-- The command that reports are about. -/
  command : Option Octets
  line : Nat
  documents : List (Nat × Word)
  next : Nat
  lastJob : Option Nat
  jobs : List Job
  /-- Where the reading of switches stands: the argument and the place in it. -/
  argumentIndex : Nat
  argumentPlace : Option Nat
  /-- The status to end with, while what is to be done at the end is being done. -/
  leaving : Option Nat
  /-- The permissions that new files do not get. -/
  mask : Nat

inductive Halt where
  | exit
  | error
  /-- Another program has taken its place and has ended. -/
  | replaced
  | killed (signal : Nat)
  | endless
  deriving DecidableEq, Repr

abbrev Sh := ExceptT Halt (StateM Session)

namespace Sh

variable {α : Type}

def modifyWorld (f : World → World) : Sh Unit := modify fun s => { s with world := f s.world }

def setStatus (n : Nat) : Sh Unit := modify fun s => { s with status := n }

def hasOption (c : Char) : Sh Bool := return (← get).options.contains c

/-! ## Streams -/

def stream? (n : Nat) : Sh (Option (Nat × Stream)) := do
  let s ← get
  return do
    let id ← Keyed.get? n s.channels
    let stream ← s.world.streams[id]?
    return (id, stream)

/-- Open a stream and give its place in the world. -/
def newStream (stream : Stream) : Sh Nat := do
  let id := (← get).world.streams.size
  modifyWorld fun w => { w with streams := w.streams.push stream }
  return id

def setStream (id : Nat) (stream : Stream) : Sh Unit :=
  modifyWorld fun w => { w with streams := w.streams.setIfInBounds id stream }

def bind (n id : Nat) : Sh Unit := modify fun s => { s with channels := Keyed.put n id s.channels }

def close (n : Nat) : Sh Unit := modify fun s => { s with channels := s.channels.filter (·.1 != n) }

/-- A text with another one put into it, zeros filling what lies between. -/
def overwritten (content : Octets) (position : Nat) (o : Octets) : Octets :=
  let front := content.take position
  front ++ List.replicate (position - front.length) '\x00' ++ o ++ content.drop (position + o.length)

def disk : Sh Disk := return ⟨(← get).world.files, (← get).here⟩

def setDisk (d : Disk) : Sh Unit := modifyWorld fun w => { w with files := d.files }

/-- Count work as so many commands. -/
def spend (n : Nat) : Sh Unit := modifyWorld fun w => { w with steps := w.steps - n }

/-- The characters that are written or kept for the work of one command. -/
def textPerStep : Nat := 16

/-- Write to the stream of a number; tells whether that is possible. -/
def write (n : Nat) (o : Octets) : Sh Bool := do
  if o.isEmpty then return true
  spend (o.length / textPerStep)
  match ← stream? n with
  | none | some (_, .input) | some (_, .directory) | some (_, .full) => return false
  | some (_, .null) => return true
  | some (_, .outlet out) =>
    let s ← get
    set { s with world := { s.world with log := ⟨s.world.time, s.number, out, o⟩ :: s.world.log } }
    return true
  | some (id, .pipe unread written ready) =>
    setStream id (.pipe unread (o :: written) ready)
    return true
  | some (id, .file place position mode) =>
    if mode = .read then return false
    let d ← disk
    let content := d.content place
    let position := if mode = .append then content.length else position
    setDisk (d.put place (overwritten content position o))
    setStream id (.file place (position + o.length) mode)
    return true

/-- What can be read from the stream of a number, its writers having ended. -/
def contents (n : Nat) : Sh (Option Octets) := do
  match ← stream? n with
  | none | some (_, .outlet _) | some (_, .directory) => return none
  | some (_, .full) => throw .endless
  | some (_, .input) => return some (← get).world.input
  | some (_, .null) => return some []
  | some (id, .pipe unread written ready) =>
    let all := unread ++ written.reverse.flatten
    setStream id (.pipe all [] ready)
    modifyWorld fun w => { w with time := max w.time ready }
    return some all
  | some (_, .file place position mode) =>
    if mode = .write || mode = .append || mode = .overwrite then return none
    else return some (((← disk).content place).drop position)

/-- Leave the rest of what could be read; so many bytes have been. -/
def leave (n : Nat) (rest : Octets) (used : Nat) : Sh Unit := do
  match ← stream? n with
  | some (_, .input) => modifyWorld fun w => { w with input := rest }
  | some (id, .pipe _ written ready) => setStream id (.pipe rest written ready)
  | some (id, .file place position mode) => setStream id (.file place (position + used) mode)
  | _ => return

/-! ## Reports -/

def report (message : Octets) : Sh Unit := do
  let s ← get
  let about := match s.command with
    | some c => c ++ ": ".toList
    | none => []
  let _ ← write 2 (s.name ++ ": ".toList ++ Octets.ofNat s.line ++ ": ".toList ++ about ++ message ++ ['\n'])

def fail (message : Octets) : Sh α := do
  report message
  setStatus 2
  throw .error

def about (command : Option Octets) (body : Sh α) : Sh α := do
  let before := (← get).command
  modify fun s => { s with command }
  let result ← tryCatch body fun h => do
    modify fun s => { s with command := before }
    throw h
  modify fun s => { s with command := before }
  return result

/-! ## Variables -/

def lookUp? (name : Octets) : Sh (Option Octets) :=
  return (Keyed.get? name (← get).bindings).bind Variable.value

def setVariable (name : Octets) (value : Option Octets) (exported : Bool) : Sh Unit := do
  if !isName name then fail (name ++ ": bad variable name".toList)
  spend ((value.map List.length).getD 0 / textPerStep)
  let s ← get
  let before := (Keyed.get? name s.bindings).getD ⟨none, false, false⟩
  if before.fixed then fail (name ++ ": is read only".toList)
  let after : Variable := ⟨value, before.exported || exported || s.options.contains 'a', false⟩
  set { s with bindings := Keyed.put name after s.bindings }
  if name = "OPTIND".toList then
    let index := ((value.bind (Number.natural? 10)).getD 1)
    modify fun s => { s with argumentIndex := max index 1, argumentPlace := none }

def assign (assignment : Octets) (exported : Bool) : Sh Unit := do
  let (name, rest) := nameOf assignment
  match rest with
  | '=' :: value => setVariable name (some value) exported
  | _ => fail (assignment ++ ": bad variable name".toList)

/-- Remember a variable for the time when the function or command ends. -/
def remember (name : Octets) : Sh Unit :=
  modify fun s =>
    match s.locals with
    | [] => s
    | frame :: more =>
      if (Keyed.get? name frame).isSome then s
      else { s with locals := (Keyed.put name (Keyed.get? name s.bindings) frame) :: more }

def withLocals (body : Sh α) : Sh α := do
  modify fun s => { s with locals := [] :: s.locals }
  let restore : Sh Unit := modify fun s =>
    match s.locals with
    | [] => s
    | frame :: more =>
      let bindings := frame.foldl (fun vs p =>
        match p.2 with
        | some v => Keyed.put p.1 v vs
        | none => vs.filter (·.1 != p.1)) s.bindings
      { s with bindings, locals := more }
  let result ← tryCatch body fun h => do
    restore
    throw h
  restore
  return result

/-! ## Signals -/

def signals : List (String × Nat) :=
  [("HUP", 1), ("INT", 2), ("QUIT", 3), ("ILL", 4), ("TRAP", 5), ("ABRT", 6), ("BUS", 7), ("FPE", 8), ("KILL", 9),
    ("USR1", 10), ("SEGV", 11), ("USR2", 12), ("PIPE", 13), ("ALRM", 14), ("TERM", 15), ("CHLD", 17),
    ("CONT", 18), ("STOP", 19), ("TSTP", 20), ("TTIN", 21), ("TTOU", 22), ("URG", 23), ("XCPU", 24), ("XFSZ", 25),
    ("VTALRM", 26), ("PROF", 27), ("WINCH", 28), ("IO", 29), ("PWR", 30), ("SYS", 31)]

def obituary (signal : Nat) : String :=
  let texts : List (Nat × String) :=
    [(1, "Hangup"), (3, "Quit"), (4, "Illegal instruction"), (5, "Trace/breakpoint trap"), (6, "Aborted"),
      (7, "Bus error"), (8, "Floating point exception"), (9, "Killed"), (10, "User defined signal 1"),
      (11, "Segmentation fault"), (12, "User defined signal 2"), (14, "Alarm clock"), (15, "Terminated"),
      (16, "Stack fault"), (24, "CPU time limit exceeded"), (25, "File size limit exceeded"),
      (26, "Virtual timer expired"), (27, "Profiling timer expired"), (29, "I/O possible"), (30, "Power failure"),
      (31, "Bad system call")]
  (Keyed.get? signal texts).getD ""

def harmless : List Nat := [17, 18, 23, 28]

def stopping : List Nat := [19, 20, 21, 22]

end Sh

end ComponentFormat.Shell
