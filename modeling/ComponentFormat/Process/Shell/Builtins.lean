import ComponentFormat.Process.Shell.Condition
import ComponentFormat.Process.Shell.Expansion
import ComponentFormat.Process.Shell.Format

/-! # Commands of the shell itself

These commands run no other ones. Each gives its status and what it writes; a wrong use of one stops it with a
report.
-/
namespace ComponentFormat.Shell

structure Outcome where
  status : Nat
  output : Octets
  deriving DecidableEq, Repr

namespace Outcome

def success : Outcome := ⟨0, []⟩

def lines (status : Nat) (ls : List Octets) : Outcome := ⟨status, ls.flatMap fun l => l ++ ['\n']⟩

end Outcome

/-- A command by what it does with its arguments. -/
abbrev Builtin := List Octets → Sh Outcome

namespace Builtin

open Sh

/-- Switches at the front of the arguments, each letter with its argument if it takes one, and the rest. -/
def switchesFrom (plain valued : List Char) : Nat → List Octets → Sh (List (Char × Octets) × List Octets)
  | 0, args => return ([], args)
  | fuel + 1, args =>
    match args with
    | ['-', '-'] :: rest => return ([], rest)
    | ('-' :: c :: t) :: rest =>
      if valued.contains c then
        match t, rest with
        | [], [] => fail ("No arg for -".toList ++ [c] ++ " option".toList)
        | [], a :: rest => do
          let (more, left) ← switchesFrom plain valued fuel rest
          return ((c, a) :: more, left)
        | t, rest => do
          let (more, left) ← switchesFrom plain valued fuel rest
          return ((c, t) :: more, left)
      else if plain.contains c then do
        let (more, left) ← switchesFrom plain valued fuel (if t.isEmpty then rest else ('-' :: t) :: rest)
        return ((c, []) :: more, left)
      else fail ("Illegal option -".toList ++ [c])
    | args => return ([], args)

def switches (plain valued : List Char) (args : List Octets) : Sh (List (Char × Octets) × List Octets) :=
  switchesFrom plain valued ((args.map List.length).foldl Nat.add args.length + 1) args

def operands (args : List Octets) : Sh (List Octets) := return (← switches [] [] args).2

def illegalNumber {α : Type} (t : Octets) : Sh α := fail ("Illegal number: ".toList ++ t)

def number (t : Octets) : Sh Nat :=
  match Integer.whole? false t with
  | some n => if 0 ≤ n ∧ n < Int.ofNat (twoTo 31) then return n.toNat else illegalNumber t
  | none => illegalNumber t

/-- A text in single quotes that reads back as it is. -/
def quoted (t : Octets) : Octets :=
  if t.isEmpty then ['\'', '\'']
  else go (t.length + 1) t
where
  go : Nat → Octets → Octets
    | 0, _ | _, [] => []
    | fuel + 1, c :: t =>
      let inQuotes (d : Char) : Bool := (d == '\'') == (c == '\'')
      let run := (c :: t).takeWhile inQuotes
      let mark := if c = '\'' then '"' else '\''
      mark :: run ++ mark :: go fuel (t.drop (run.length - 1))

/-! ## Writing -/

/-- The arguments between blanks up to the request to write no more. -/
def echoed : List Octets → Octets × Bool
  | [] => ([], false)
  | a :: rest =>
    let (o, stops) := Escape.resolve a.length a
    if stops || rest.isEmpty then (o, stops)
    else
      let (more, stops) := echoed rest
      (o ++ ' ' :: more, stops)

def echo : Builtin := fun args =>
  let silent := args.head? = some ['-', 'n']
  let (o, stops) := echoed (if silent then args.drop 1 else args)
  return ⟨0, if silent || stops then o else o ++ ['\n']⟩

def printf : Builtin := fun args => do
  match ← operands args with
  | [] => fail "usage: printf format [arg ...]".toList
  | format :: args =>
    let f := Format.run format args
    f.warnings.forM report
    match f.fault with
    | some reason =>
      report reason
      let _ ← write 1 f.output
      setStatus 2
      throw .error
    | none => return ⟨if f.warnings.isEmpty then 0 else 1, f.output⟩

/-! ## Conditions -/

def test : Builtin := fun args => do
  match Condition.holds (← disk) args with
  | .ok b => return ⟨if b then 0 else 1, []⟩
  | .error reason => fail reason

def bracket : Builtin := fun args =>
  if args.getLast? = some [']'] then test args.dropLast else fail "missing ]".toList

/-! ## Directories -/

def cd : Builtin := fun args => do
  let (_, args) ← switches ['L', 'P'] [] args
  let given := args.head?
  let old ← lookUp? "OLDPWD".toList
  let destination := match given with
    | none => none
    | some ['-'] => some (old.getD [])
    | some d => some d
  let destination ← match destination with
    | some d => pure d
    | none => pure ((← lookUp? "HOME".toList).getD [])
  let d ← disk
  let cannot : Sh Outcome := fail ("can't cd to ".toList ++ destination)
  let go (p : Place) : Sh Outcome := do
    setVariable "OLDPWD".toList (some (Disk.pathOf d.here)) true
    setVariable "PWD".toList (some (Disk.pathOf p)) true
    modify fun s => { s with here := p }
    return if given = some ['-'] then .lines 0 [Disk.pathOf p] else .success
  match if destination.isEmpty then .ok d.here else d.locate destination with
  | .ok p => if d.nodeAt? p = some .directory then go p else cannot
  | .error _ => cannot

def pwd : Builtin := fun args => do
  let _ ← switches ['L', 'P'] [] args
  return .lines 0 [Disk.pathOf (← get).here]

def maskLetters (mask : Nat) : Octets :=
  let part (name : Char) (shift : Nat) : Octets :=
    let bits := 7 - mask / shift % 8
    [name, '='] ++ (if bits / 4 % 2 = 1 then ['r'] else []) ++ (if bits / 2 % 2 = 1 then ['w'] else []) ++
      (if bits % 2 = 1 then ['x'] else [])
  Text.join [','] [part 'u' 64, part 'g' 8, part 'o' 1]

def umask : Builtin := fun args => do
  let (found, args) ← switches ['S'] [] args
  let mask := (← get).mask
  match args with
  | [] =>
    let ds := Nat.toDigits 8 mask
    return .lines 0 [if found.isEmpty then List.replicate (4 - ds.length) '0' ++ ds else maskLetters mask]
  | a :: _ =>
    if a.head?.any isAsciiDigit then
      match Number.natural? 8 a with
      | some n =>
        modify fun s => { s with mask := n % 512 }
        return .success
      | none => illegalNumber a
    else fail ("Illegal mode: ".toList ++ a)

/-! ## Variables -/

/-- A variable as a command that sets it. -/
def shownVariable (front name : Octets) (v : Variable) : Octets :=
  front ++ name ++ (match v.value with
    | some value => '=' :: quoted value
    | none => [])

def shownVariables (front : Octets) (p : Variable → Bool) : Sh Outcome := do
  let all := (← get).bindings.filter fun q => p q.2
  let sorted := all.mergeSort fun a b => a.1.atMost b.1
  return .lines 0 (sorted.map fun q => shownVariable front q.1 q.2)

/-- Give variables a property, and values where they are written. -/
def mark (name : String) (has : Variable → Bool) (give : Variable → Variable) : Builtin := fun args => do
  let (found, args) ← switches ['p'] [] args
  if args.isEmpty || !found.isEmpty then shownVariables (name.toList ++ [' ']) has
  else
    args.forM fun a => do
      let n := a.takeWhile (· != '=')
      let known := (Keyed.get? a (← get).bindings).isSome
      match a.dropWhile (· != '=') with
      | [] => if !known then setVariable a none false
      | _ :: value => setVariable n (some value) false
      modify fun s => { s with bindings := s.bindings.map fun q => if q.1 = n then (q.1, give q.2) else q }
    return .success

def «export» : Builtin := mark "export" Variable.exported fun v => { v with exported := true }

def readonly : Builtin := mark "readonly" Variable.fixed fun v => { v with fixed := true }

def «local» : Builtin := fun args => do
  if (← get).locals.isEmpty then fail "not in a function".toList
  args.forM fun a => do
    let name := a.takeWhile (· != '=')
    remember name
    match a.dropWhile (· != '=') with
    | _ :: value => setVariable name (some value) false
    | [] => if (Keyed.get? name (← get).bindings).isNone then setVariable name none false
  return .success

def unset : Builtin := fun args => do
  let (found, args) ← switches ['v', 'f'] [] args
  let functions := found.getLast?.any (·.1 == 'f')
  args.forM fun a =>
    if functions then modify fun s => { s with functions := s.functions.filter (·.1 != a) }
    else do
      setVariable a none false
      modify fun s => { s with bindings := s.bindings.filter (·.1 != a) }
  return .success

def shift : Builtin := fun args => do
  let n ← match args with
    | [] => pure 1
    | a :: _ => number a
  if (← get).arguments.length < n then fail "can't shift that many".toList
  modify fun s => { s with
    arguments := s.arguments.drop n, argumentIndex := 1, argumentPlace := none }
  return .success

/-! ## Options -/

def optionNames : List (String × Char) :=
  [("errexit", 'e'), ("noglob", 'f'), ("ignoreeof", 'I'), ("interactive", 'i'), ("monitor", 'm'), ("noexec", 'n'),
    ("stdin", 's'), ("xtrace", 'x'), ("verbose", 'v'), ("vi", 'V'), ("emacs", 'E'), ("noclobber", 'C'),
    ("allexport", 'a'), ("notify", 'b'), ("nounset", 'u'), ("privileged", 'p'), ("nolog", 'L'), ("debug", 'D')]

def setOption (on : Bool) (c : Char) : Sh Unit := do
  if !optionLetters.contains c then fail ("Illegal option -".toList ++ [c])
  modify fun s => { s with options := s.options.filter (· != c) ++ (if on then [c] else []) }

/-- All options as they are, or as commands that set them. -/
def shownOptions (on : Bool) : Sh (List Octets) := do
  let options := (← get).options
  if on then
    return "Current option settings".toList :: optionNames.map fun o =>
      o.1.toList ++ List.replicate (16 - o.1.length) ' ' ++ (if options.contains o.2 then "on" else "off").toList
  else
    return optionNames.map fun o =>
      "set ".toList ++ (if options.contains o.2 then "-o " else "+o ").toList ++ o.1.toList

/-- Set the options of a row of letters; an `o` takes the name of one from the other arguments. -/
def setLetters (on : Bool) : Octets → List Octets → Sh (List Octets × List Octets)
  | [], rest => return (rest, [])
  | 'o' :: cs, [] => do
    let (rest, shown) ← setLetters on cs []
    return (rest, (← shownOptions on) ++ shown)
  | 'o' :: cs, name :: rest => do
    match optionNames.find? (·.1.toList == name) with
    | some o => modify fun s => { s with options := s.options.filter (· != o.2) ++ (if on then [o.2] else []) }
    | none => fail ("Illegal option -o ".toList ++ name)
    setLetters on cs rest
  | c :: cs, rest => do
    setOption on c
    setLetters on cs rest

def setArguments (args : List Octets) : Sh Unit :=
  modify fun s => { s with arguments := args, argumentIndex := 1, argumentPlace := none }

def setFrom : Nat → List Octets → Sh (List Octets)
  | 0, _ => return []
  | fuel + 1, args =>
    match args with
    | [] => return []
    | ['-'] :: rest => do
      modify fun s => { s with options := s.options.filter fun c => c != 'x' && c != 'v' }
      if !rest.isEmpty then setArguments rest
      return []
    | ['-', '-'] :: rest => do
      setArguments rest
      return []
    | ('-' :: cs) :: rest => do
      let (rest, shown) ← setLetters true cs rest
      return shown ++ (← setFrom fuel rest)
    | ('+' :: cs) :: rest => do
      let (rest, shown) ← setLetters false cs rest
      return shown ++ (← setFrom fuel rest)
    | rest => do
      setArguments rest
      return []

def set : Builtin := fun args =>
  if args.isEmpty then shownVariables [] fun v => v.value.isSome
  else return .lines 0 (← setFrom (args.length + 1) args)

/-! ## Reading -/

/-- The characters of a line with whether they may separate fields, what is left, and whether the line had an end.
A backslash guards the next character and joins lines unless `raw` is set. -/
def lineOf (raw : Bool) : Nat → Octets → List (Char × Bool) × Octets × Bool
  | 0, t => ([], t, false)
  | _, [] => ([], [], false)
  | fuel + 1, c :: t =>
    let keep (p : Char × Bool) (t : Octets) : List (Char × Bool) × Octets × Bool :=
      let (line, rest, ended) := lineOf raw fuel t
      (p :: line, rest, ended)
    if c == '\n' then ([], t, true)
    else if c == '\x00' then lineOf raw fuel t
    else if c == '\\' && !raw then
      match t with
      | [] => ([], [], false)
      | '\n' :: t => lineOf raw fuel t
      | d :: t => keep (d, false) t
    else keep (c, true) t

def read : Builtin := fun args => do
  let (found, names) ← switches ['r'] ['p'] args
  if names.isEmpty then fail "arg count".toList
  let input := (← contents 0).getD []
  let (line, rest, ended) := lineOf (found.any (·.1 == 'r')) (input.length + 1) input
  leave 0 rest (input.length - rest.length)
  let values := Fields.ofLine (← separators) (line.length + 1) names.length line []
  (names.zipIdx).forM fun p => setVariable p.1 (some ((values[p.2]?).getD [])) false
  return ⟨if ended then 0 else 1, []⟩

/-! ## Switches of scripts -/

structure Found where
  letter : Char
  argument : Option Octets
  complaint : Octets
  /-- The next argument, and the place in the one before it. -/
  index : Nat
  place : Option Nat

def nextSwitch (letters : Octets) (args : List Octets) (index : Nat) (place : Option Nat) : Option Found × Nat :=
  let silent := letters.head? = some ':'
  let current? : Option (Octets × Nat × Nat) :=
    match place, if index = 0 then none else args[index - 2]? with
    | some n, some a => if 2 ≤ index && n < a.length then some (a.drop n, index, n) else none
    | _, _ => none
  let current? := current?.or <|
    match args[index - 1]? with
    | some ('-' :: c :: t) => if c = '-' && t.isEmpty then none else some (c :: t, index + 1, 1)
    | _ => none
  match current? with
  | some (c :: t, index, n) =>
    let place := if t.isEmpty then none else some (n + 1)
    match if c = ':' then [] else letters.dropWhile (· != c) with
    | [] => (some {
        letter := '?', argument := if silent then some [c] else none
        complaint := if silent then [] else "Illegal option -".toList ++ [c, '\n'], index, place }, index)
    | _ :: ':' :: _ =>
      match t, args[index - 1]? with
      | [], none => (some {
          letter := if silent then ':' else '?', argument := if silent then some [c] else none
          complaint := if silent then [] else "No arg for -".toList ++ [c] ++ " option\n".toList, index, place }, index)
      | [], some a => (some ⟨c, some a, [], index + 1, none⟩, index)
      | t, _ => (some ⟨c, some t, [], index, none⟩, index)
    | _ => (some ⟨c, some [], [], index, place⟩, index)
  | _ =>
    let ends := args[index - 1]? = some ['-', '-']
    (none, if ends then index + 1 else index)

def getopts : Builtin := fun args => do
  match args with
  | letters :: name :: more =>
    let s ← get
    let args := if more.isEmpty then s.arguments else more
    let (found?, index) := nextSwitch letters args s.argumentIndex s.argumentPlace
    let finish (index : Nat) (place : Option Nat) (letter : Char) : Sh Unit := do
      setVariable "OPTIND".toList (some (Octets.ofNat index)) false
      setVariable name (some [letter]) false
      modify fun s => { s with argumentIndex := index, argumentPlace := place }
    match found? with
    | none =>
      finish index none '?'
      return ⟨1, []⟩
    | some f =>
      let _ ← write 2 f.complaint
      setVariable "OPTARG".toList f.argument false
      finish f.index f.place f.letter
      return .success
  | _ => fail "Usage: getopts optstring var [arg...]".toList

/-! ## Processes -/

def lastSignal : Nat := 64

def signalNamed? (t : Octets) : Option Nat :=
  let lower := t.map Char.toUpper
  match Number.natural? 10 t with
  | some n => if n ≤ lastSignal then some n else none
  | none => if lower = "EXIT".toList then some 0 else (signals.find? (·.1.toList == lower)).map Prod.snd

def signalName (n : Nat) : Octets :=
  match signals.find? (·.2 == n) with
  | some p => p.1.toList
  | none =>
    if n = 0 then "EXIT".toList
    else if n = 34 then "RTMIN".toList
    else if 34 < n ∧ n ≤ 49 then "RTMIN+".toList ++ Octets.ofNat (n - 34)
    else if n = lastSignal then "RTMAX".toList
    else if 49 < n ∧ n < lastSignal then "RTMAX-".toList ++ Octets.ofNat (lastSignal - n)
    else Octets.ofNat n

/-- Send a signal to a process; one in the background ends with it, and what it did later has not been done. -/
def send (signal process : Nat) : Sh Bool := do
  let s ← get
  if process = s.shown || process = s.number then
    modifyWorld fun w => { w with signals := w.signals ++ [⟨process, signal, w.time⟩] }
    return true
  else if s.jobs.any fun j => j.number == process && s.world.time < j.finish then
    if signal ≠ 0 && !harmless.contains signal then
      let jobs := s.jobs.map fun j =>
        if j.number == process then { j with finish := s.world.time, status := 128 + signal } else j
      let log := s.world.log.filter fun e => e.process != process || e.time ≤ s.world.time
      modify fun s => { s with jobs, world := { s.world with log } }
    return true
  else return false

def killUsage {α : Type} : Sh α :=
  fail "Usage: kill [-s sigspec | -signum | -sigspec] [pid | job]... or\nkill -l [exitstatus]".toList

def listedSignals (args : List Octets) : Sh Outcome := do
  match args with
  | [] => return .lines 0 (['0'] :: (List.range lastSignal).map fun n => signalName (n + 1))
  | a :: _ =>
    let n ← number a
    let m := if 128 < n then n - 128 else n
    if 1 ≤ m && m ≤ lastSignal then return .lines 0 [signalName m]
    else fail ("invalid signal number or exit status: ".toList ++ a)

def kill : Builtin := fun args => do
  let toAll (signal : Nat) (targets : List Octets) : Sh Outcome := do
    if targets.isEmpty then killUsage
    let failed ← targets.filterM fun t => do
      if ← send signal (← number t) then return false
      else
        report "No such process\n".toList
        return true
    return ⟨if failed.isEmpty then 0 else 1, []⟩
  match args with
  | [] => killUsage
  | ('-' :: t) :: rest =>
    match signalNamed? t with
    | some signal => toAll signal rest
    | none => do
      let (found, rest) ← switches ['l'] ['s'] args
      let signal ← match (found.filter (·.1 == 's')).getLast? with
        | none => pure 15
        | some p =>
          match signalNamed? p.2 with
          | some n => pure n
          | none => fail ("invalid signal number or name: ".toList ++ p.2)
      if found.any (·.1 == 'l') then listedSignals rest else toAll signal rest
  | _ => toAll 15 args

def setTraps (action : Option Octets) : List Octets → Sh Outcome
  | [] => return .success
  | a :: rest => do
    match signalNamed? a with
    | none =>
      let _ ← write 2 ("trap: ".toList ++ a ++ ": bad trap\n".toList)
      return ⟨1, []⟩
    | some n =>
      modify fun s => { s with traps := match action with
        | some action => Keyed.put n action s.traps
        | none => s.traps.filter (·.1 != n) }
      setTraps action rest

def trap : Builtin := fun args => do
  match ← operands args with
  | [] =>
    let sorted := (← get).traps.mergeSort fun a b => a.1 ≤ b.1
    return .lines 0 (sorted.map fun t => "trap -- ".toList ++ quoted t.2 ++ [' '] ++ signalName t.1)
  | [a] => setTraps none [a]
  | a :: rest =>
    if (Number.natural? 10 a).isSome && (signalNamed? a).isSome then setTraps none (a :: rest)
    else setTraps (if a = ['-'] then none else some a) rest

def wait : Builtin := fun args => do
  let s ← get
  match args with
  | [] =>
    let finish := (s.jobs.map Job.finish).foldl max s.world.time
    modifyWorld fun w => { w with time := finish }
    return .success
  | _ =>
    let mut status := 127
    for a in args do
      let n ← number a
      match s.jobs.find? fun j => j.number == n with
      | some j =>
        modifyWorld fun w => { w with time := max w.time j.finish }
        status := j.status
      | none => status := 127
    return ⟨status, []⟩

/-! ## Leaving -/

def leaveLoops (leave : Nat → Skip) : Builtin := fun args => do
  let n ← match args with
    | [] => pure 1
    | a :: _ =>
      let n ← number a
      if n = 0 then illegalNumber a
      pure n
  let n := min n (← get).loops
  if n ≠ 0 then modify fun s => { s with skip := leave n }
  return .success

def «return» : Builtin := fun args => do
  let status ← match args with
    | [] => pure (← get).status
    | a :: _ => number a
  modify fun s => { s with skip := .returns !args.isEmpty }
  return ⟨status, []⟩

def exit : Builtin := fun args => do
  match args with
  | [] => pure ()
  | a :: _ =>
    let n ← number a
    modify fun s => { s with status := n, leaving := s.leaving.map fun _ => n }
  throw .exit

end Builtin

end ComponentFormat.Shell
