import ComponentFormat.Process.Shell.Machine

/-! # The shell as a program

What a shell and the processes that it starts have written is put into order by the clock.
-/
namespace ComponentFormat.Shell

def firstNumber : Nat := 4242

def searchPath : String := "/usr/local/sbin:/usr/local/bin:/usr/sbin:/usr/bin:/sbin:/bin"

def environment : List (Octets × Variable) :=
  [("HOME".toList, ⟨some "/root".toList, true, false⟩), ("PATH".toList, ⟨some searchPath.toList, true, false⟩)]

/-- How many commands are run before a script counts as endless. -/
def maxSteps : Nat := 200000

/-- How deep commands stand inside of commands and functions at most. -/
def maxDepth : Nat := 20000

def startStreams : Array Stream := #[.input, .outlet .output, .outlet .errors]

def Session.start (s : Surroundings) : Session where
  world := {
    input := s.input, files := s.disk.files, streams := startStreams, log := [], time := 0, held := 0
    steps := maxSteps, last := firstNumber, signals := [] }
  name := s.name
  arguments := []
  bindings := environment
  functions := []
  options := []
  traps := []
  channels := [(0, 0), (1, 1), (2, 2)]
  here := s.disk.here
  number := firstNumber
  shown := firstNumber
  status := 0
  outputStatus := 0
  skip := .none
  loops := 0
  depth := 0
  locals := []
  command := none
  line := 0
  documents := []
  next := 0
  lastJob := none
  jobs := []
  argumentIndex := 1
  argumentPlace := none
  leaving := none
  mask := 18

/-- The shell run with arguments. Signals show as negative statuses. -/
def run : Program := fun args s =>
  let k := Kernel.ofDepth maxDepth
  let (result, final) := (k.conclude (k.boot s.name args)).run.run (Session.start s)
  let w := final.world
  let written := (w.log.reverse.mergeSort fun a b => a.time ≤ b.time).map fun e => (e.outlet, e.octets)
  let (status, time) : Int × Nat := match result with
    | .ok (.exited n) => (n, max w.time w.held)
    | .ok (.killed n) => (-n, max w.time w.held)
    | .error _ => (0, Run.forever)
  ⟨status, written, w.input, ⟨w.files, s.disk.here⟩, time⟩

end ComponentFormat.Shell
