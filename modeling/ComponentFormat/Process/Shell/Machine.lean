import ComponentFormat.Process.Cat
import ComponentFormat.Process.Editor.Program
import ComponentFormat.Process.Shell.Builtins
import ComponentFormat.Process.Translate

/-! # Running commands

Commands stand inside of commands, so each level of running is given the one below it. What is started beside a
shell runs at once and is waited for by the clock.
-/
namespace ComponentFormat.Shell

inductive Ending where
  | exited (status : Nat)
  | killed (signal : Nat)
  deriving DecidableEq, Repr

def Ending.status : Ending → Nat
  | exited n => n
  | killed n => 128 + n

structure Position where
  /-- Its failure is looked at. -/
  tested : Bool
  /-- Nothing comes behind it. -/
  last : Bool
  deriving DecidableEq, Repr

/-- How commands inside of commands are run. -/
structure Kernel where
  run : Position → Option Command → Sh Nat
  boot : Octets → List Octets → Sh Unit

namespace Sh

variable {α : Type}

def always (body : Sh α) (after : Sh Unit) : Sh α := do
  let result ← tryCatch body fun h => do
    after
    throw h
  after
  return result

def halting (body : Sh Unit) : Sh (Option Halt) :=
  tryCatch (do body; return none) fun h => return some h

/-- Streams that are written to stay open up to now. -/
def hold : Sh Unit := do
  for n in [1, 2] do
    match ← stream? n with
    | some (_, .outlet _) => modifyWorld fun w => { w with held := max w.held w.time }
    | some (id, .pipe unread written ready) => setStream id (.pipe unread written (max ready (← get).world.time))
    | _ => pure ()

def mourn (e : Ending) : Sh Unit := do
  match e with
  | .killed n => if n ≠ 2 && n ≠ 13 then let _ ← write 2 ((obituary n).toList ++ ['\n'])
  | .exited _ => return

end Sh

namespace Kernel

open Sh

variable (k : Kernel)

/-! ## Scripts -/

/-- Run the lines of a script that are left; the last status so far is given. -/
def linesFrom (p : Position) : Nat → Reader → Nat → Sh Nat
  | 0, _, _ => throw .endless
  | fuel + 1, r, status => do
    match r.readLine with
    | .error e =>
      modify fun s => { s with line := e.line }
      fail ("Syntax error: ".toList ++ e.message.toList)
    | .ok (c?, r) =>
      modify fun s => { s with documents := r.documents ++ s.documents, next := r.next }
      let r := { r with documents := [] }
      if c?.isNone && r.isAtEnd then return status
      let n ← k.run { p with last := p.last && r.isAtEnd } c?
      let status := if c?.isSome then n else status
      if (← get).skip ≠ .none then return status else linesFrom p fuel r status

def script (p : Position) (t : Octets) : Sh Nat := do
  let r := Reader.start t (← get).next
  k.linesFrom p r.fuel r 0

/-- Run a script that is a file of its own: a return ends it. -/
def file (t : Octets) : Sh Nat := do
  let n ← k.script ⟨false, false⟩ t
  modify fun s => { s with skip := s.skip.behindReturn }
  return n

/-! ## Processes -/

/-- How a process ends after its body, what is to be done at its end being done. -/
def conclude (body : Sh Unit) : Sh Ending := do
  let exited : Sh Ending := return .exited ((← get).status % 256)
  match ← halting body with
  | some .endless => throw .endless
  | some (.killed n) => hold; return .killed n
  | some .replaced => exited
  | _ =>
    let s ← get
    match Keyed.get? 0 s.traps with
    | none => hold; exited
    | some action =>
      set { s with traps := s.traps.filter (·.1 != 0), leaving := some s.status, skip := .none }
      let halt? ← halting do let _ ← k.script ⟨false, false⟩ action
      hold
      match halt? with
      | some .endless => throw .endless
      | some (.killed n) => return .killed n
      | some .error | some .replaced => exited
      | none | some .exit => return .exited (((← get).leaving.getD s.status) % 256)

def processSteps : Nat := 10

/-- Run a process of its own that starts out like this one. -/
def apart (adjust : Session → Session) (body : Sh Unit) : Sh Ending := do
  spend processSteps
  let s ← get
  let number := s.world.last + 1
  let child := adjust { s with
    number, world := { s.world with last := number }
    traps := s.traps.filter (·.2.isEmpty), leaving := none, jobs := [] }
  let (result, child) := (k.conclude body).run.run child
  set { s with world := child.world }
  match result with
  | .ok e => return e
  | .error h => throw h

def capture (body : Option Command) : Sh Octets := do
  if body.isNone then return []
  let id ← newStream (.pipe [] [] 0)
  let e ← k.apart (fun s => { s with channels := Keyed.put 1 id s.channels }) do
    let _ ← k.run ⟨false, true⟩ body
  mourn e
  modify fun s => { s with outputStatus := e.status }
  match (← get).world.streams[id]? with
  | some (.pipe _ written ready) =>
    setStream id .null
    modifyWorld fun w => { w with time := max w.time ready }
    return written.reverse.flatten
  | _ => return []

/-- A process in the background, whose clock starts now. -/
def beside (adjust : Session → Session) (body : Sh Unit) : Sh Unit := do
  let time := (← get).world.time
  let number := (← get).world.last + 1
  let e ← k.apart adjust body
  modify fun s => { s with
    jobs := ⟨number, s.world.time, e.status⟩ :: s.jobs, lastJob := some number, world := { s.world with time } }

def deliver : Sh Unit := do
  let s ← get
  let (mine, others) := s.world.signals.partition fun x => x.process = s.number && x.time ≤ s.world.time
  modifyWorld fun w => { w with signals := others }
  for x in mine do
    let n := x.signal
    let traps := (← get).traps
    match if n = 9 || n = 19 then none else Keyed.get? n traps with
    | some action =>
      let status := (← get).status
      let _ ← k.script ⟨false, false⟩ action
      if (← get).skip ≠ .returns true then setStatus status
    | none =>
      if n = 0 || harmless.contains n then pure ()
      else if stopping.contains n then throw .endless
      else throw (.killed n)

/-! ## Programs -/

structure Absence where
  status : Nat
  reason : String

def absenceOf : DiskError → Absence
  | .missing | .notDirectory => ⟨127, "not found"⟩
  | .tooLong => ⟨127, DiskError.tooLong.text⟩
  | e => ⟨126, e.text⟩

def isPath (name : Octets) : Bool := name.any (· == '/')

def findProgram (name : Octets) : Sh (Except DiskError (String × Octets)) := do
  let d ← disk
  if isPath name then return (d.programOf name).map fun p => (p, name)
  else
    let dirs := match ← lookUp? "PATH".toList with
      | some path => Text.splitAt (· == ':') path
      | none => []
    return d.programIn name dirs none

def program? (name : String) : Option Program :=
  match name with
  | "cat" => some Cat.run
  | "sed" => some Editor.run
  | "sleep" => some Sleep.run
  | "tr" => some Translate.run
  | _ => none

/-- What a program reports that cannot write. -/
def refuseOutput (program : String) (name : Octets) (isFull : Bool) : Sh Unit := do
  let tell (status : Nat) (what : String) (e : DiskError) : Sh Unit := do
    let _ ← write 2 (name ++ ": ".toList ++ what.toList ++ ": ".toList ++ e.text.toList ++ ['\n'])
    setStatus status
  match program, isFull with
  | "sed", true => tell 4 "couldn't flush stdout" .noSpace
  | "sed", false => return
  | _, true => tell 1 "write error" .noSpace
  | _, false => tell 1 "write error" .badStream

/-- Run a program in the place of this process. -/
def become (program : String) (name : Octets) (args : List Octets) : Sh Unit := do
  match program? program with
  | some run =>
    let reads := program ≠ "sleep"
    let source ← stream? 0
    let target ← stream? 1
    let input ← if reads then contents 0 else pure (some [])
    let fault : DiskError := match source with
      | some (_, .directory) => .isDirectory
      | _ => .badStream
    let r := run args ⟨name, input.getD [], ← disk, if input.isSome then none else some fault,
      source.isSome, target.isSome⟩
    if reads then Sh.leave 0 r.input ((input.getD []).length - r.input.length)
    setDisk r.disk
    setStatus r.status.toNat
    let refused ← r.written.filterM fun p => do
      let done ← write (if p.1 = .output then 1 else 2) p.2
      return !done && p.1 = .output
    if !refused.isEmpty then refuseOutput program name (target.map Prod.snd = some .full)
    modifyWorld fun w => { w with time := w.time + r.time }
    hold
    throw .replaced
  | none =>
    modify fun s => { s with
      bindings := s.bindings.filter fun v => v.2.exported && v.2.value.isSome
      functions := [], options := [], shown := s.number, status := 0
      skip := .none, loops := 0, depth := 0, locals := []
      command := none, line := 0, lastJob := none, jobs := [], argumentIndex := 1, argumentPlace := none }
    match ← k.conclude (k.boot name args) with
    | .exited n =>
      setStatus n
      throw .replaced
    | .killed n => throw (.killed n)

/-! ## Redirections -/

inductive Opening where
  | file (stream : Nat) (mode : FileMode) (name : Octets)
  | duplicate (stream : Nat) (target : Octets)
  | document (stream : Nat) (text : Octets)

def expandRedirection : Redirection → Sh Opening
  | .file stream mode name => return .file stream mode (← text k.capture .plain name)
  | .duplicate stream target => return .duplicate stream (← text k.capture .plain target)
  | .document stream number expands => do
    let body := (Keyed.get? number (← get).documents).getD []
    let body ← if expands then text k.capture .document body else pure (Part.unquoted body)
    return .document stream body

def openFile (stream : Nat) (mode : FileMode) (name : Octets) : Sh Unit := do
  let d ← disk
  let reads := mode = .read
  let cannot (e : DiskError) : Sh Unit :=
    let reason := match e with
      | .missing | .notDirectory => if reads then "No such file" else "Directory nonexistent"
      | e => e.text
    fail ((if reads then "cannot open " else "cannot create ").toList ++ name ++ ": ".toList ++ reason.toList)
  let use (s : Stream) : Sh Unit := do bind stream (← newStream s)
  let opened : Except DiskError (Place × Option DiskNode) := do
    let p ← if reads then d.locate name else d.locateNew name
    return (p, d.nodeAt? p)
  match opened with
  | .error e => cannot e
  | .ok (p, node?) =>
    match node? with
    | none => if reads then cannot .missing else
        setDisk (d.put p [])
        use (.file p 0 mode)
    | some .directory => if reads then use .directory else cannot .isDirectory
    | some (.device .null) => use .null
    | some (.device .full) => use .full
    | some (.device .terminal) => cannot .noDevice
    | some (.device (.stream n)) =>
      match ← stream? n with
      | some (id, _) => bind stream id
      | none => cannot .missing
    | some (.file _) =>
      if mode = .write && (← hasOption 'C') then
        fail ("cannot create ".toList ++ name ++ ": File exists".toList)
      if mode = .write || mode = .overwrite then setDisk (d.put p [])
      use (.file p 0 mode)
    | some (.program _) | some .foreign => if reads then use .null else cannot .denied

/-- Open what is redirected. `keeps` tells whether the stream that was open before is put away first, so that
nothing can be said through it. -/
def openStream (keeps : Bool) : Opening → Sh Unit
  | .file stream mode name => openFile stream mode name
  | .document stream text => do bind stream (← newStream (.pipe text [] 0))
  | .duplicate stream target => do
    match target with
    | ['-'] => close stream
    | [d] =>
      match Number.digit? 10 d with
      | none => fail "Syntax error: Bad fd number".toList
      | some n =>
        match ← stream? n with
        | some (id, _) => bind stream id
        | none =>
          if keeps then close stream
          fail (Octets.ofNat n ++ ": Bad file descriptor".toList)
    | _ => fail "Syntax error: Bad fd number".toList

def openAll (openings : List Opening) : Sh Bool := do
  match ← halting (openings.forM (openStream true)) with
  | none => return true
  | some .error => return false
  | some h => throw h

/-- Run with redirections, which are gone afterwards. -/
def redirected (rs : List Redirection) (body : Sh Nat) : Sh Nat := do
  let openings ← rs.mapM k.expandRedirection
  let before := (← get).channels
  always (do if ← openAll openings then body else return 2)
    (modify fun s => { s with channels := before })

/-! ## Simple commands -/

inductive Kind where
  | nothing
  | builtin (name : String)
  | function (line : Nat) (body : Command)
  | program

def regularNames : List String :=
  ["[", "alias", "bg", "cd", "command", "echo", "false", "fg", "getopts", "hash", "jobs", "kill", "printf", "pwd",
    "read", "test", "true", "type", "ulimit", "umask", "unalias", "wait"]

def isSpecial (name : Octets) : Bool := specialNames.any (·.toList == name)

def builtin? (name : Octets) : Option String :=
  (specialNames ++ regularNames).find? (·.toList == name)

def kindOf (name : Octets) (functions : Bool) : Sh Kind := do
  let known := (← get).functions
  match if functions && !isPath name then Keyed.get? name known else none with
  | some (line, body) => return .function line body
  | none =>
    match builtin? name with
    | some name => return .builtin name
    | none => return .program

structure Chosen where
  kind : Kind
  /-- The name is the first one. -/
  arguments : List Octets
  special : Bool

/-- Whether what is assigned in front of the command holds for it alone. -/
def Chosen.isLocal (c : Chosen) : Bool :=
  match c.kind with
  | .nothing => false
  | .builtin _ => !c.special
  | _ => true

/-- The words behind `command`, from the first that is none of its switches: what was read, and what is left. No
words if the switches ask for something else. -/
def behindCommand : Nat → List Octets → List Octets → List Word →
    Sh (List Octets × Option (List Octets) × List Word)
  | 0, seen, fields, words => return (seen ++ fields, none, words)
  | fuel + 1, seen, fields, words => do
    match fields, words with
    | [], [] => return (seen, none, [])
    | [], w :: ws => behindCommand fuel seen (← Sh.fields k.capture w) ws
    | a :: rest, ws =>
      match a with
      | ['-', '-'] =>
        match rest, ws with
        | [], [] => return (seen ++ [a], none, [])
        | [], w :: ws => behindSwitches fuel (seen ++ [a]) (← Sh.fields k.capture w) ws
        | rest, ws => return (seen ++ [a], some rest, ws)
      | '-' :: c :: cs =>
        if (c :: cs).all (· == 'p') then behindCommand fuel (seen ++ [a]) rest ws
        else return (seen ++ a :: rest, none, ws)
      | _ => return (seen, some (a :: rest), ws)
where
  behindSwitches : Nat → List Octets → List Octets → List Word →
      Sh (List Octets × Option (List Octets) × List Word)
    | 0, seen, fields, ws => return (seen ++ fields, none, ws)
    | _, seen, [], [] => return (seen, none, [])
    | fuel + 1, seen, [], w :: ws => do behindSwitches fuel seen (← Sh.fields k.capture w) ws
    | _, seen, fields, ws => return (seen, some fields, ws)

/-- Find out which command words stand for, the fields of the first ones being given. -/
def choose : Nat → Bool → Option Bool → List Octets → List Word → Sh Chosen
  | 0, _, _, fields, _ => return ⟨.nothing, fields, false⟩
  | fuel + 1, functions, special?, fields, words => do
    match fields, words with
    | [], [] => return ⟨.nothing, [], special?.getD false⟩
    | [], w :: ws => choose fuel functions special? (← Sh.fields k.capture w) ws
    | name :: rest, words =>
      let kind ← kindOf name functions
      let special? := match kind with
        | .builtin _ => some (special?.getD (isSpecial name))
        | _ => special?
      let finish (kind : Kind) (fields : List Octets) (words : List Word) : Sh Chosen := do
        let assigns := match kind with
          | .builtin name => name = "export" || name = "readonly" || name = "local"
          | _ => false
        let more ← words.mapM fun w => do
          if assigns && isAssignment (Part.literal w) then return [← text k.capture .assignment w]
          else Sh.fields k.capture w
        return ⟨kind, fields ++ more.flatten, special?.getD false⟩
      match kind with
      | .builtin "command" =>
        let (seen, found?, words) ← k.behindCommand fuel [] rest words
        match found? with
        | some fields => choose fuel false special? fields words
        | none => finish kind (name :: seen) words
      | kind => finish kind (name :: rest) words

/-- What is told about a name: how it is to be written, or what it is. -/
def describe (verbose : Bool) (name : Octets) : Sh Outcome := do
  let tell (status : Nat) (brief long : Octets) : Outcome := .lines status [if verbose then name ++ long else brief]
  if (Keyword.ofText? name).isSome then return tell 0 name " is a shell keyword".toList
  match ← kindOf name true with
  | .function _ _ => return tell 0 name " is a shell function".toList
  | .builtin b =>
    return tell 0 name (if isSpecial b.toList then " is a special shell builtin" else " is a shell builtin").toList
  | _ =>
    let found ← if isPath name then do
        pure ((((← disk).find name).toOption).map fun _ => name)
      else pure ((← findProgram name).toOption.map Prod.snd)
    match found with
    | some path => return tell 0 path (" is ".toList ++ path)
    | none => return if verbose then tell 127 [] ": not found".toList else ⟨127, []⟩

def describeAll : List Octets → Sh Outcome
  | [] => return .success
  | name :: names => do
    let first ← describe true name
    let rest ← describeAll names
    return ⟨first.status ||| rest.status, first.output ++ rest.output⟩

def execute (args : List Octets) : Sh Unit := do
  match args with
  | [] => return
  | name :: args =>
    match ← findProgram name with
    | .ok (program, _) => k.become program name args
    | .error e =>
      let a := absenceOf e
      report (name ++ ": ".toList ++ a.reason.toList)
      setStatus a.status
      throw .exit

def dotFile (name : Octets) : Sh Octets := do
  let d ← disk
  let found? : Option Octets ←
    if isPath name then
      match d.find name with
      | .ok (.file t) => pure (some t)
      | .ok (.device (.stream n)) =>
        let t := (← contents n).getD []
        Sh.leave n [] t.length
        pure (some t)
      | .ok _ => pure (some [])
      | .error e =>
        fail ("cannot open ".toList ++ name ++ ": ".toList ++
          (match e with
            | .missing | .notDirectory => "No such file"
            | e => e.text).toList)
    else
      let dirs := Text.splitAt (· == ':') ((← lookUp? "PATH".toList).getD [])
      pure (dirs.findSome? fun dir =>
        match d.find (if dir.isEmpty then name else dir ++ '/' :: name) with
        | .ok (.file t) => some t
        | _ => none)
  match found? with
  | some t => return t
  | none => fail (name ++ ": not found".toList)

def builtin (p : Position) (name : String) (args : List Octets) : Sh Outcome := do
  match name with
  | "." =>
    match ← Builtin.operands args with
    | [] => return .success
    | path :: _ =>
      let t ← dotFile path
      return ⟨← about (some path) (k.file t), []⟩
  | ":" | "true" | "alias" | "unalias" | "bg" | "fg" | "hash" | "jobs" | "times" =>
    if name = "bg" || name = "fg" then fail "No current job".toList
    return .success
  | "false" => return ⟨1, []⟩
  | "break" => Builtin.leaveLoops .breaks args
  | "continue" => Builtin.leaveLoops .continues args
  | "eval" =>
    if args.isEmpty then return .success
    return ⟨← k.script ⟨p.tested, false⟩ (Text.join [' '] args), []⟩
  | "exec" =>
    k.execute args
    return .success
  | "command" =>
    let (found, names) ← Builtin.switches ['p', 'v', 'V'] [] args
    match names, found.any (·.1 == 'v'), found.any (·.1 == 'V') with
    | name :: _, _, true => describe true name
    | name :: _, true, _ => describe false name
    | _, _, _ => return .success
  | "type" => describeAll args
  | "ulimit" => return .lines 0 (if args.isEmpty then ["unlimited".toList] else [])
  | "[" => Builtin.bracket args
  | "cd" => Builtin.cd args
  | "echo" => Builtin.echo args
  | "exit" => Builtin.exit args
  | "export" => Builtin.export args
  | "getopts" => Builtin.getopts args
  | "kill" => Builtin.kill args
  | "local" => Builtin.local args
  | "printf" => Builtin.printf args
  | "pwd" => Builtin.pwd args
  | "read" => Builtin.read args
  | "readonly" => Builtin.readonly args
  | "return" => Builtin.return args
  | "set" => Builtin.set args
  | "shift" => Builtin.shift args
  | "test" => Builtin.test args
  | "trap" => Builtin.trap args
  | "umask" => Builtin.umask args
  | "unset" => Builtin.unset args
  | "wait" => Builtin.wait args
  | _ => return .success

/-- Run a command of the shell and write what it gives. The report of one that is not special does not end the
shell. -/
def runBuiltin (p : Position) (name : String) (special : Bool) (args : List Octets) : Sh Nat := do
  let body : Sh Unit := about (some name.toList) do
    let o ← k.builtin p name args
    let status ← if ← write 1 o.output then pure o.status else do
      report (name.toList ++ ": I/O error".toList)
      pure (o.status ||| 1)
    setStatus status
  match ← halting body with
  | none => return (← get).status
  | some .error => if special then throw .error else return (← get).status
  | some h => throw h

def maxCalls : Nat := 1000

def call (p : Position) (body : Command) (args : List Octets) : Sh Nat := do
  let s ← get
  if maxCalls ≤ s.depth then
    fail ("Maximum function recursion depth (".toList ++ Octets.ofNat maxCalls ++ ") reached".toList)
  set { s with depth := s.depth + 1, loops := 0, arguments := args, argumentIndex := 1, argumentPlace := none }
  let restore : Sh Unit := modify fun t => { t with
    depth := s.depth, loops := s.loops, arguments := s.arguments, argumentIndex := s.argumentIndex
    argumentPlace := s.argumentPlace, skip := t.skip.behindReturn }
  let _ ← always (withLocals (k.run ⟨p.tested, false⟩ (some body))) restore
  return (← get).status

/-- Run a program, in the place of this process if nothing comes behind it. -/
def runProgram (p : Position) (args : List Octets) : Sh Nat := do
  let name := args.headD []
  let found ← findProgram name
  match found, isPath name with
  | .error e, false =>
    let reason := if e = .denied then e.text else (absenceOf e).reason
    report (name ++ ": ".toList ++ reason.toList)
    return 127
  | _, _ =>
    if p.last && (← get).traps.all (·.2.isEmpty) then
      k.execute args
      return (← get).status
    else
      let e ← k.apart id (k.execute args)
      mourn e
      return e.status

def trace (channels : List (Nat × Nat)) (texts : List Octets) : Sh Unit := do
  if ← hasOption 'x' then
    let now := (← get).channels
    let front := (← lookUp? "PS4".toList).getD []
    modify fun s => { s with channels }
    let _ ← write 2 (front ++ Text.join [' '] texts ++ ['\n'])
    modify fun s => { s with channels := now }

/-- Run what a simple command has chosen, with its assignments and redirections. -/
def perform (p : Position) (c : Chosen) (isLocal : Bool) (assignments : List Word) (rs : List Redirection) :
    Sh Nat := do
  let openings ← rs.mapM k.expandRedirection
  let before := (← get).channels
  let isExec := match c.kind with
    | .builtin name => name = "exec"
    | _ => false
  let restore : Sh Unit := modify fun s => { s with channels := before }
  if !(← openAll openings) then
    restore
    setStatus 2
    if c.special then throw .error
    return 2
  let body : Sh Nat := do
    let texts ← assignments.mapM fun w => do
      let t ← text k.capture .assignment w
      if isLocal then remember (nameOf t).1
      assign t (isLocal || (isExec && 1 < c.arguments.length))
      return t
    trace before (texts ++ c.arguments)
    match c.kind with
    | .nothing => return (← get).outputStatus
    | .builtin name => k.runBuiltin p name c.special c.arguments.tail
    | .function _ body => k.call p body c.arguments.tail
    | .program => k.runProgram p c.arguments
  if isExec then body else always body restore

def simple (p : Position) (line : Nat) (assignments words : List Word) (rs : List Redirection) : Sh Nat := do
  modify fun s => { s with line, outputStatus := 0 }
  let size := (words.map List.length).foldl Nat.add (2 * words.length + 2)
  let c ← k.choose size true none [] words
  let body := k.perform p c c.isLocal assignments rs
  if c.isLocal then withLocals body else body

/-! ## Compound commands -/

def subshell (p : Position) (line : Nat) (body : Option Command) (rs : List Redirection) : Sh Nat := do
  modify fun s => { s with line }
  let openings ← rs.mapM k.expandRedirection
  let replaces := p.last && (← get).traps.all (·.2.isEmpty)
  let e ← k.apart id do
    openings.forM (openStream false)
    let _ ← k.run { p with last := true } body
  match e with
  | .killed n => if replaces then throw (.killed n) else mourn e
  | .exited _ => pure ()
  return e.status

def background (line : Nat) (body : Command) (rs : List Redirection) : Sh Nat := do
  modify fun s => { s with line }
  let openings ← rs.mapM k.expandRedirection
  let nothing ← newStream .null
  k.beside (fun s => { s with channels := Keyed.put 0 nothing s.channels }) do
    openings.forM (openStream false)
    let _ ← k.run ⟨false, true⟩ (some body)
  return 0

/-- Run the commands of a pipeline from one on, `input` being what it reads, all of them starting at one time. What
has ended so far is given: the last one, and when the longest one did. -/
def stages (p : Position) (start : Nat) (waits : Bool) : List Command → Option Nat → Ending → Nat → Sh (Ending × Nat)
  | [], _, e, finish => return (e, finish)
  | c :: cs, input?, _, finish => do
    let output? ← if cs.isEmpty then pure none else some <$> newStream (.pipe [] [] 0)
    modifyWorld fun w => { w with time := start }
    let adjust (s : Session) : Session :=
      let channels := match input? with
        | some id => Keyed.put 0 id s.channels
        | none => s.channels
      { s with channels := match output? with
        | some id => Keyed.put 1 id channels
        | none => channels }
    let e ← k.apart adjust do
      let _ ← k.run { p with last := true } (some c)
    if waits then mourn e
    stages p start waits cs output? e (max finish (← get).world.time)

def pipeline (p : Position) (cs : List Command) (waits : Bool) : Sh Nat := do
  let start := (← get).world.time
  if waits then
    let (e, finish) ← k.stages p start true cs none (.exited 0) start
    modifyWorld fun w => { w with time := finish }
    return e.status
  else
    let nothing ← newStream .null
    let (e, finish) ← k.stages p start false cs (some nothing) (.exited 0) start
    modify fun s => { s with
      jobs := ⟨s.world.last, finish, e.status⟩ :: s.jobs, lastJob := some s.world.last
      world := { s.world with time := start } }
    return 0

inductive After where
  | goesOn
  | again
  | ends
  | returns (hasStatus : Bool)
  deriving DecidableEq

def afterPart : Sh After := do
  match (← get).skip with
  | .none => return .goesOn
  | .returns hasStatus => return .returns hasStatus
  | .breaks n =>
    modify fun s => { s with skip := if n ≤ 1 then .none else .breaks (n - 1) }
    return .ends
  | .continues n =>
    modify fun s => { s with skip := if n ≤ 1 then .none else .continues (n - 1) }
    return if n ≤ 1 then .again else .ends

def inLoop (body : Sh Nat) : Sh Nat := do
  modify fun s => { s with loops := s.loops + 1 }
  let n ← body
  modify fun s => { s with loops := s.loops - 1 }
  return n

/-- How often a loop runs before it counts as endless. -/
def maxRounds : Nat := 10000000

def loopFrom (p : Position) (ends : Bool) (test body : Option Command) : Nat → Nat → Sh Nat
  | 0, _ => throw .endless
  | fuel + 1, status => do
    let n ← k.run ⟨true, false⟩ test
    match ← afterPart with
    | .again => loopFrom p ends test body fuel status
    | .ends => return status
    | .returns hasStatus => return if hasStatus then n else status
    | .goesOn =>
      if (n = 0) = ends then return status
      else
        let status ← k.run ⟨p.tested, false⟩ body
        match ← afterPart with
        | .again | .goesOn => loopFrom p ends test body fuel status
        | .ends | .returns _ => return status

def eachFrom (p : Position) (name : Octets) (body : Option Command) : List Octets → Nat → Sh Nat
  | [], status => return status
  | value :: values, _ => do
    setVariable name (some value) false
    let status ← k.run ⟨p.tested, false⟩ body
    match ← afterPart with
    | .again | .goesOn => eachFrom p name body values status
    | .ends | .returns _ => return status

def anyMatches (subject : Octets) : List Word → Sh Bool
  | [] => return false
  | w :: ws => do
    if Wildcard.accepts (← pattern k.capture w) subject then return true else anyMatches subject ws

def choiceFrom (p : Position) (subject : Octets) : List (List Word × Option Command) → Sh Nat
  | [] => return 0
  | (patterns, body) :: branches => do
    if ← k.anyMatches subject patterns then
      match body with
      | some c => k.run p (some c)
      | none => return 0
    else choiceFrom p subject branches

/-- Stop if a failure that nobody looks at is to stop the shell. -/
def checked (p : Position) (body : Sh Nat) : Sh Nat := do
  let n ← body
  setStatus n
  if n ≠ 0 && !p.tested && (← hasOption 'e') then throw .exit
  return n

def command (p : Position) : Command → Sh Nat
  | .simple line assignments words rs => checked p (k.simple p line assignments words rs)
  | .pipeline cs waits => checked p (k.pipeline p cs waits)
  | .subshell line body rs => checked p (k.subshell p line body rs)
  | .background line body rs => k.background line body rs
  | .redirected line body rs => do
    modify fun s => { s with line }
    k.redirected rs (k.run ⟨p.tested, false⟩ (some body))
  | .negation body => do
    let n ← k.run ⟨true, false⟩ (some body)
    if (← get).skip ≠ .none then return n else return if n = 0 then 1 else 0
  | .both first second => do
    let n ← k.run ⟨true, false⟩ (some first)
    if n ≠ 0 || (← get).skip ≠ .none then return n else k.run p (some second)
  | .either first second => do
    let n ← k.run ⟨true, false⟩ (some first)
    if n = 0 || (← get).skip ≠ .none then return n else k.run p (some second)
  | .sequence first second => do
    let n ← k.run ⟨p.tested, false⟩ (some first)
    if (← get).skip ≠ .none then return n else k.run p (some second)
  | .conditional test success failure => do
    let n ← k.run ⟨true, false⟩ test
    if (← get).skip ≠ .none then return n
    else if n = 0 then k.run p success
    else if failure.isSome then k.run p failure
    else return 0
  | .loop ends test body => inLoop (k.loopFrom p ends test body maxRounds 0)
  | .each line name words body => do
    modify fun s => { s with line }
    let values ← words.mapM (Sh.fields k.capture)
    inLoop (k.eachFrom p name body values.flatten 0)
  | .choice line subject branches => do
    modify fun s => { s with line }
    k.choiceFrom p (← text k.capture .plain subject) branches
  | .definition line name body => do
    modify fun s => { s with functions := Keyed.put name (line, body) s.functions }
    return 0

def tree (p : Position) (c? : Option Command) : Sh Nat := do
  match c? with
  | none => return 0
  | some c =>
    if ← hasOption 'n' then return 0
    if (← get).world.steps = 0 then throw .endless
    spend 1
    k.deliver
    let n ← k.command p c
    setStatus n
    k.deliver
    return n

/-! ## Starting a shell -/

/-- The letters in front of the arguments of a shell: whether a script is an argument, and what is left. -/
def bootLetters (on : Bool) : Octets → List Octets → Sh (Bool × List Octets × List Octets)
  | [], rest => return (false, rest, [])
  | 'c' :: cs, rest => do
    let (_, rest, shown) ← bootLetters on cs rest
    return (true, rest, shown)
  | 'l' :: cs, rest => bootLetters on cs rest
  | 'o' :: cs, rest => do
    let (left, shown) ← Builtin.setLetters on ['o'] rest
    let (isScript, left, more) ← bootLetters on cs left
    return (isScript, left, shown ++ more)
  | c :: cs, rest => do
    Builtin.setOption on c
    bootLetters on cs rest

def bootOptions : Nat → List Octets → Sh (Bool × List Octets)
  | 0, args => return (false, args)
  | fuel + 1, args =>
    match args with
    | ['-'] :: rest | ['-', '-'] :: rest => return (false, rest)
    | (sign :: cs) :: rest =>
      if sign = '-' || sign = '+' then do
        let (isScript, rest, shown) ← bootLetters (sign = '-') cs rest
        let _ ← write 1 (shown.flatMap fun l => l ++ ['\n'])
        let (more, rest) ← bootOptions fuel rest
        return (isScript || more, rest)
      else return (false, args)
    | _ => return (false, args)

def bootInput : Sh Unit := do
  let t := (← contents 0).getD []
  Sh.leave 0 [] t.length
  let _ ← k.file t

def bootWith (name : Octets) (args : List Octets) : Sh Unit := do
  modify fun s => { s with name, arguments := [] }
  let defaults : List (String × String) :=
    [("IFS", " \t\n"), ("OPTIND", "1"), ("PS1", "# "), ("PS2", "> "), ("PS4", "+ ")]
  defaults.forM fun d => setVariable d.1.toList (some d.2.toList) false
  setVariable "PWD".toList (some (Disk.pathOf (← get).here)) false
  let (isScript, rest) ← bootOptions (args.length + 1) args
  let setUp (rest : List Octets) : Sh Unit :=
    modify fun s => { s with name := rest.headD s.name, arguments := rest.tail, line := 1 }
  match isScript, rest with
  | true, [] => fail "-c requires an argument".toList
  | true, script :: rest =>
    setUp rest
    let reads ← hasOption 's'
    let _ ← k.script ⟨false, !reads⟩ script
    if reads then
      modify fun s => { s with skip := .none }
      k.bootInput
  | false, rest =>
    if rest.isEmpty || (← hasOption 's') then
      Builtin.setOption true 's'
      modify fun s => { s with arguments := rest, line := 1 }
      k.bootInput
    else
      let path := rest.headD []
      match (← disk).find path with
      | .ok (.file t) =>
        setUp rest
        let _ ← k.file t
      | .ok (.device (.stream 0)) =>
        setUp rest
        k.bootInput
      | .ok _ => return
      | .error e =>
        let reason := match e with
          | .missing | .notDirectory => "No such file"
          | e => e.text
        fail ("cannot open ".toList ++ path ++ ": ".toList ++ reason.toList)

def ofDepth : Nat → Kernel
  | 0 => ⟨fun _ _ => throw .endless, fun _ _ => throw .endless⟩
  | depth + 1 => ⟨fun p c => (ofDepth depth).tree p c, fun name args => (ofDepth depth).bootWith name args⟩

end Kernel

end ComponentFormat.Shell
