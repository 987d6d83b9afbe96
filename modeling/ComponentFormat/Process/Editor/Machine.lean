import ComponentFormat.Process.Editor.Basic
import ComponentFormat.Process.Run

/-! # Running scripts of the stream editor

Lines are read into a space where the commands work on them; at the end of the script the space is written. Texts
that are to follow a line wait until the next one is read.
-/
namespace ComponentFormat.Editor

structure Settings where
  name : Octets
  quiet : Bool
  isStrict : Bool
  separate : Bool
  unbuffered : Bool
  delimiter : Char
  width : Nat
  /-- Files are replaced by what is written, the old ones being kept under a name with this at its end. -/
  inPlace : Option Octets

inductive Waiting where
  | text (t : Octets)
  | file (name : Octets)
  deriving DecidableEq, Repr

inductive RangeState where
  /-- Until the line given, or until the last address is met. -/
  | active (stop : Option Nat)
  | closed
  deriving DecidableEq, Repr

/-- A line without its end, and whether it has one. -/
structure Line where
  text : Octets
  ended : Bool
  deriving DecidableEq, Repr

inductive Opened where
  | input
  | file (name rest : Octets)
  deriving DecidableEq, Repr

structure Machine where
  space : Line
  held : Line
  number : Nat
  replaced : Bool
  waiting : List Waiting
  ranges : List (Nat × RangeState)
  lastUsed : Option Expression
  opened : Option Opened
  names : List Octets
  input : Octets
  /-- Why the input cannot be read. -/
  inputFault : Option DiskError
  /-- What is left of files that are read line by line. -/
  readers : List (Octets × Octets)
  /-- Which outlets lack the end of a line: the output, and the channels by their names. -/
  unended : List Octets
  /-- The file that is replaced, and what has been written for it. -/
  edited : Option (Octets × Octets)
  disk : Disk
  /-- The last first. -/
  written : List (Outlet × Octets)
  status : Nat

inductive Step where
  | goOn (target : Nat)
  /-- The end of the script without what is done there. -/
  | cycle
  /-- The script again without a new line. -/
  | again
  | stop (status : Nat)
  | fail (r : Refusal)

namespace Machine

/-- The output has no name. -/
def mainOutlet : Octets := []

def put (m : Machine) (name : Octets) (o : Octets) : Machine :=
  if o.isEmpty then m
  else if name = mainOutlet then
    match m.edited with
    | some (file, t) => { m with edited := some (file, t ++ o) }
    | none => { m with written := (.output, o) :: m.written }
  else if name = "/dev/stdout".toList then { m with written := (.output, o) :: m.written }
  else if name = "/dev/stderr".toList then { m with written := (.errors, o) :: m.written }
  else match m.disk.creatable name with
    | .ok p =>
      match m.disk.nodeAt? p with
      | some (.device (.stream 1)) => { m with written := (.output, o) :: m.written }
      | some (.device (.stream 2)) => { m with written := (.errors, o) :: m.written }
      | some (.device _) => m
      | _ => { m with disk := m.disk.put p (m.disk.content p ++ o) }
    | .error _ => m

def complain (s : Settings) (m : Machine) (o : Octets) : Machine :=
  { m with written := (.errors, s.name ++ ": ".toList ++ o ++ ['\n']) :: m.written }

/-- End the line that an outlet may be in. -/
def endLine (s : Settings) (m : Machine) (name : Octets) : Machine :=
  if m.unended.contains name then { m.put name [s.delimiter] with unended := m.unended.filter (· != name) } else m

/-- Write a whole text, which ends a line. -/
def putText (s : Settings) (m : Machine) (o : Octets) : Machine := (endLine s m mainOutlet).put mainOutlet o

def putLine (s : Settings) (m : Machine) (name : Octets) (l : Line) : Machine :=
  let m := (endLine s m name).put name l.text
  if l.ended then m.put name [s.delimiter] else { m with unended := name :: m.unended }

/-- The content of a file that is read as a whole; none if it cannot be read. -/
def content? (m : Machine) (name : Octets) : Option Octets :=
  match m.disk.find name with
  | .ok (.file t) => some t
  | _ => none

def flush (s : Settings) (m : Machine) : Machine :=
  let m' := { endLine s m mainOutlet with waiting := [] }
  m.waiting.foldl (fun m w =>
    match w with
    | .text t => m.put mainOutlet t
    | .file name => m.put mainOutlet ((m.content? name).getD [])) m'

def close (s : Settings) (m : Machine) : Machine :=
  let m := match m.edited, s.inPlace with
    | some (name, t), some ending =>
      match m.disk.locate name with
      | .ok p =>
        let old := m.disk.content p
        let kept := if ending.isEmpty then m.disk
          else match m.disk.creatable (name ++ ending) with
            | .ok q => m.disk.put q old
            | .error _ => m.disk
        { m with disk := kept.put p t }
      | .error _ => m
    | _, _ => m
  { m with opened := none, edited := none }

def openNext (s : Settings) (m : Machine) (name : Octets) (names : List Octets) : Machine :=
  let m := { m with names }
  let refuse (e : DiskError) : Machine :=
    { complain s m ("can't read ".toList ++ name ++ ": ".toList ++ e.text.toList) with status := 2 }
  if name = ['-'] && s.inPlace.isNone then { m with opened := some .input }
  else match m.disk.find name with
    | .ok (.file t) => { m with
        opened := some (.file name t)
        edited := if s.inPlace.isSome then some (name, []) else none }
    | .ok (.device (.stream 0)) => { m with opened := some .input }
    | .ok (.device .null) => { m with opened := some (.file name []) }
    | .ok (.device _) => refuse .noDevice
    | .ok .directory =>
      if s.inPlace.isSome then
        { complain s m ("couldn't edit ".toList ++ name ++ ": not a regular file".toList) with status := 4 }
      else { m with opened := some (.file name []) }
    | .ok (.program _) | .ok .foreign => refuse .denied
    | .error e => refuse e

def left (m : Machine) : Octets :=
  match m.opened with
  | some .input => m.input
  | some (.file _ t) => t
  | none => []

def setLeft (m : Machine) (t : Octets) : Machine :=
  match m.opened with
  | some .input => { m with input := t }
  | some (.file name _) => { m with opened := some (.file name t) }
  | none => m

/-- What is open that cannot be read, as a directory cannot, and why. -/
def fault? (m : Machine) : Option (Octets × DiskError) :=
  match m.opened with
  | some (.file name _) =>
    match m.disk.find name with
    | .ok .directory => some (name, .isDirectory)
    | _ => none
  | some .input => m.inputFault.map fun e => ("stdin".toList, e)
  | none => none

/-- Open files up to one that has something in it. -/
def seek (s : Settings) : List Octets → Machine → Machine
  | [], m => m
  | name :: names, m =>
    let m := openNext s m name names
    if m.left.isEmpty && m.fault?.isNone then seek s names (m.close s) else m

def isAtEnd (s : Settings) (m : Machine) : Bool × Machine :=
  if !m.left.isEmpty || m.fault?.isSome then (false, m)
  else if s.separate then (true, m)
  else
    let m := seek s m.names m
    (m.left.isEmpty && m.fault?.isNone, m)

def cutLine (s : Settings) (t : Octets) : Line × Octets :=
  let text := t.takeWhile (· != s.delimiter)
  match t.dropWhile (· != s.delimiter) with
  | [] => (⟨text, false⟩, [])
  | _ :: rest => (⟨text, true⟩, rest)

/-- The next line, if there is one. A new file may start the numbers again. -/
def readLine (s : Settings) (m : Machine) : Except Refusal (Option Line) × Machine :=
  let m := { (if m.waiting.isEmpty then m else m.flush s) with replaced := false }
  let m := if m.left.isEmpty && m.fault?.isNone then
      let starts := m.opened.isSome && s.separate
      let m := seek s m.names (m.close s)
      if starts && !m.left.isEmpty then
        { endLine s m mainOutlet with number := 0, ranges := [] }
      else m
    else m
  match m.fault? with
  | some (name, e) => (.error (.panic ("read error on ".toList ++ name ++ ": ".toList ++ e.text.toList)), m)
  | none =>
    if m.left.isEmpty then (.ok none, m)
    else
      let (l, rest) := cutLine s m.left
      (.ok (some l), { m.setLeft rest with number := m.number + 1 })

/-- Search an expression, or the one used last. -/
def search (s : Settings) (e : Option Expression) (text : List Glyph) (position : Nat) (m : Machine) :
    Except Refusal (Option Pattern.Match × Machine) :=
  match e.or m.lastUsed with
  | none => .error (.inScript 1 0 "no previous regular expression".toList)
  | some e =>
    let e' := if s.delimiter = '\n' then e else { e with manner := { e.manner with multiline := false } }
    .ok (e'.search text position, { m with lastUsed := some e })

def meets (s : Settings) (a : Address) (m : Machine) : Except Refusal (Bool × Machine) := do
  match a with
  | .line n => return (m.number = n, m)
  | .every first step => return (first ≤ m.number && (m.number - first) % step = 0, m)
  | .last => return m.isAtEnd s
  | .found e =>
    let (found, m) ← search s e m.space.text.glyphs 0 m
    return (found.isSome, m)

def setRange (m : Machine) (i : Nat) (r : RangeState) : Machine :=
  { m with ranges := (i, r) :: m.ranges.filter (·.1 != i) }

def range? (m : Machine) (i : Nat) : Option RangeState := (m.ranges.find? (·.1 == i)).map Prod.snd

/-- Whether a range starts here: at its line or behind it, unless it has been. -/
def startsRange (s : Settings) (a : Address) (r : Option RangeState) (m : Machine) : Except Refusal (Bool × Machine) :=
  match a with
  | .line n => .ok (r != some .closed && n ≤ m.number, m)
  | a => m.meets s a

def holdsRange (s : Settings) (i : Nat) (first : Address) (last : RangeEnd) (m : Machine) :
    Except Refusal (Bool × Machine) := do
  let r := if first = .line 0 then (m.range? i).or (some (.active none)) else m.range? i
  match r, last with
  | some (.active _), .address (.line n) =>
    let m := if n ≤ m.number then m.setRange i .closed else m
    return (m.number ≤ n, m)
  | some (.active (some stop)), _ => return (true, if stop ≤ m.number then m.setRange i .closed else m)
  | some (.active none), .address a =>
    let (met, m) ← m.meets s a
    return (true, if met then m.setRange i .closed else m)
  | some (.active none), _ => return (true, m)
  | r, last =>
    let (starts, m) ← startsRange s first r m
    if !starts then return (false, m)
    let exact := match first with
      | .line n => n == m.number
      | _ => true
    match last with
    | .address (.line n) =>
      if n ≤ m.number then return (m.number ≤ n || exact, m.setRange i .closed)
      return (true, m.setRange i (.active none))
    | .further n =>
      return (true, m.setRange i (if n = 0 then .closed else .active (some (m.number + n))))
    | .multiple n =>
      return (true, m.setRange i (if n = 0 then .closed else .active (some (m.number / n * n + n))))
    | .address (.every first step) =>
      let stop := if m.number ≤ first then first
        else m.number + (step - (m.number - first) % step) % step
      return (true, m.setRange i (if stop = m.number then .closed else .active (some stop)))
    | .address .last =>
      let (atEnd, m) := m.isAtEnd s
      return (true, m.setRange i (if atEnd then .closed else .active none))
    | .address _ => return (true, m.setRange i (.active none))

def isSelected (s : Settings) (i : Nat) (c : Selection) (m : Machine) : Except Refusal (Bool × Machine) := do
  let (held, m) ←
    match c.first, c.last with
    | none, _ => pure (true, m)
    | some a, none => m.meets s a
    | some a, some b => m.holdsRange s i a b
  return (held != c.negated, m)

def changed (a : CaseChange) (g : Glyph) : Glyph :=
  match a with
  | .keep => g
  | .raise => g.raise
  | .lower => g.lowered

def styled (style : CaseStyle) (o : Octets) : Octets :=
  if style = ⟨.keep, .keep⟩ then o
  else match o.glyphs with
    | [] => []
    | g :: gs =>
      let first := if style.first = .keep then changed style.all g else changed style.first g
      Octets.spelling (first :: gs.map (changed style.all))

/-- What a match is replaced by. A change of the first letter that met no letter goes on to the next piece. -/
def replacement (held : Nat → Octets) : CaseChange → List Piece → Octets
  | _, [] => []
  | carried, p :: ps =>
    let style := if p.style.first = .keep then { p.style with first := carried } else p.style
    let front := styled style p.front
    let style := if p.front.isEmpty then style else { style with first := .keep }
    match p.group with
    | none => front ++ replacement held .keep ps
    | some n =>
      let t := held n
      if t.isEmpty then front ++ replacement held (if p.style.first = .keep then .keep else style.first) ps
      else front ++ styled style t ++ replacement held .keep ps

structure Progress where
  text : Octets
  count : Nat
  replaced : Bool
  finished : Bool

/-- Pass on the bytes of a character behind its first one. Positions are bytes here: if nothing at all is a match
between two of them, it is met and replaced there. -/
def passBytes (b : Substitution) (inside : Option Octets) : Octets → Nat → Progress
  | [], count => ⟨[], count, false, false⟩
  | c :: t, count =>
    match inside with
    | none =>
      let p := passBytes b inside t count
      { p with text := c :: p.text }
    | some r =>
      if count + 1 < b.number then
        let p := passBytes b inside t (count + 1)
        { p with text := c :: p.text }
      else if b.isGlobal then
        let p := passBytes b inside t (count + 1)
        { p with text := r ++ c :: p.text, replaced := true }
      else ⟨r ++ c :: t, count + 1, true, true⟩

/-- The replaced text from a position on, and whether anything was replaced. `count` matches have been met, and
`behind` is where the last one ended. -/
def replaceFrom (b : Substitution) (find : Nat → Option Pattern.Match) (inside : Option Octets)
    (text : List Glyph) : Nat → Nat → Nat → Option Nat → Octets × Bool
  | 0, position, _, _ => (Octets.spelling (text.drop position), false)
  | fuel + 1, position, count, behind =>
    let piece (i j : Nat) : Octets := Octets.spelling ((text.drop i).take (j - i))
    match find position with
    | none => (Octets.spelling (text.drop position), false)
    | some f =>
      let front := piece position f.start
      let isEmpty := f.start == f.stop
      let skipped := isEmpty && behind == some f.start
      let count := if skipped then count else count + 1
      let replaces := !skipped && b.number ≤ count
      let held (n : Nat) : Octets :=
        if n = 0 then piece f.start f.stop
        else match Pattern.extent? n f.extents with
          | some (i, j) => piece i j
          | none => []
      let middle := front ++ if replaces then replacement held .keep b.pieces else piece f.start f.stop
      if replaces && !b.isGlobal then (middle ++ Octets.spelling (text.drop f.stop), true)
      else if !isEmpty then
        let (rest, done) := replaceFrom b find inside text fuel f.stop count (some f.stop)
        (middle ++ rest, replaces || done)
      else
        match piece f.stop (f.stop + 1) with
        | [] => (middle, replaces)
        | c :: t =>
          let p := passBytes b inside t count
          let middle := middle ++ c :: p.text
          if p.finished then (middle ++ Octets.spelling (text.drop (f.stop + 1)), true)
          else
            let last := if t.isEmpty then some f.stop else none
            let (rest, done) := replaceFrom b find inside text fuel (f.stop + 1) p.count last
            (middle ++ rest, replaces || p.replaced || done)

def channelName (channels : List Octets) (i : Nat) : Octets := channels.getD i []

def substitute (s : Settings) (channels : List Octets) (b : Substitution) (m : Machine) : Except Refusal Machine := do
  let text := m.space.text.glyphs
  let (found, m) ← search s b.pattern text 0 m
  match found, m.lastUsed with
  | some first, some e =>
    let e := if s.delimiter = '\n' then e else { e with manner := { e.manner with multiline := false } }
    let find (i : Nat) : Option Pattern.Match := if i ≤ first.start then some first else e.search text i
    let inside := if e.matchesInside then some (replacement (fun _ => []) .keep b.pieces) else none
    let (t, done) := replaceFrom b find inside text (text.length + 2) 0 0 none
    if !done then return m
    let m := { m with space := { m.space with text := t }, replaced := true }
    let m := if b.prints then putLine s m mainOutlet m.space else m
    return match b.channel with
      | some i => putLine s m (channelName channels i) m.space
      | none => m
  | _, _ => return m

def listed (c : Char) : Octets :=
  if c = '\\' then ['\\', '\\']
  else if ' ' ≤ c && c ≤ '~' then [c]
  else match Octets.controlLetters.find? (·.1 == c) with
    | some p => ['\\', p.2]
    | none => '\\' :: Octets.octal c

def listing (delimiter : Char) (width : Nat) : Nat → Octets → Octets
  | _, [] => ['$', delimiter]
  | column, c :: t =>
    let o := listed c
    if 0 < width && width < column + o.length + 1 then
      '\\' :: delimiter :: o ++ listing delimiter width o.length t
    else o ++ listing delimiter width (column + o.length) t

def delimited (s : Settings) (t : Octets) : Octets := if t.isEmpty then [] else t.dropLast ++ [s.delimiter]

def firstLine (s : Settings) (m : Machine) : Line :=
  let isWhole := m.space.text.all (· != s.delimiter)
  ⟨m.space.text.takeWhile (· != s.delimiter), !isWhole || m.space.ended⟩

def joined (s : Settings) (a b : Line) : Line := ⟨a.text ++ s.delimiter :: b.text, b.ended⟩

def readerLine (s : Settings) (m : Machine) (name : Octets) : Option Octets × Machine :=
  let isInput := name = "/dev/stdin".toList
  let rest := if isInput then m.input
    else match m.readers.find? (·.1 == name) with
      | some (_, t) => t
      | none => (m.content? name).getD []
  if rest.isEmpty then (none, m)
  else
    let (l, rest) := cutLine s rest
    let m := if isInput then { m with input := rest }
      else { m with readers := (name, rest) :: m.readers.filter (·.1 != name) }
    (some (if l.ended then l.text ++ [s.delimiter] else l.text), m)

def isActive (m : Machine) (i : Nat) : Bool :=
  match m.range? i with
  | some (.active _) => true
  | _ => false

def act (s : Settings) (channels : List Octets) (i : Nat) (a : Action) (m : Machine) : Step × Machine :=
  let on (m : Machine) : Step × Machine := (.goOn (i + 1), m)
  match a with
  | .block _ | .nothing => on m
  | .append t => on { m with waiting := m.waiting ++ [.text t] }
  | .insert t => on (putText s m (delimited s t))
  | .change t => (.cycle, if m.isActive i then m else putText s m (delimited s t))
  | .branch .always target => (.goOn target, m)
  | .branch .ifReplaced target =>
    if m.replaced then (.goOn target, { m with replaced := false }) else on m
  | .branch .unlessReplaced target =>
    if m.replaced then on { m with replaced := false } else (.goOn target, m)
  | .delete => (.cycle, m)
  | .deleteLine =>
    match m.space.text.dropWhile (· != s.delimiter) with
    | [] => (.cycle, m)
    | _ :: rest => (.again, { m with space := { m.space with text := rest } })
  | .copyHold => on { m with space := m.held }
  | .appendHold => on { m with space := joined s m.space m.held }
  | .hold => on { m with held := m.space }
  | .holdMore => on { m with held := joined s m.held m.space }
  | .exchange => on { m with space := m.held, held := m.space }
  | .clear => on { m with space := { m.space with text := [] } }
  | .next =>
    let (atEnd, m) := m.isAtEnd s
    let m := if s.quiet || (atEnd && s.isStrict) then m else putLine s m mainOutlet m.space
    if atEnd then (.cycle, m)
    else match m.readLine s with
      | (.error r, m) => (.fail r, m)
      | (.ok none, m) => (.cycle, m)
      | (.ok (some l), m) => on { m with space := l }
  | .nextMore =>
    let (atEnd, m) := m.isAtEnd s
    if atEnd then (.cycle, if s.quiet || s.isStrict then m else putLine s m mainOutlet m.space)
    else match m.readLine s with
      | (.error r, m) => (.fail r, m)
      | (.ok none, m) => (.cycle, m)
      | (.ok (some l), m) => on { m with space := joined s m.space l }
  | .print => on (putLine s m mainOutlet m.space)
  | .printLine => on (putLine s m mainOutlet (firstLine s m))
  | .number => on (putText s m (Octets.ofNat m.number ++ [s.delimiter]))
  | .name =>
    let name := match m.opened with
      | some (.file name _) => name
      | some .input | none => ['-']
    on (putText s m (name ++ [s.delimiter]))
  | .list width => on (putText s m (listing s.delimiter (width.getD s.width) 0 m.space.text))
  | .quit status =>
    let m := if s.quiet then m else putLine s m mainOutlet m.space
    (.stop status, m.flush s)
  | .leave status => (.stop status, m)
  | .readFile name => on { m with waiting := m.waiting ++ [.file name] }
  | .readLine name =>
    match m.readerLine s name with
    | (some t, m) => on { m with waiting := m.waiting ++ [.text t] }
    | (none, m) => on m
  | .write c => on (putLine s m (channelName channels c) m.space)
  | .writeLine c => on (putLine s m (channelName channels c) (firstLine s m))
  | .substitute b =>
    match m.substitute s channels b with
    | .ok m => on m
    | .error r => (.fail r, m)
  | .transform map =>
    let t := m.space.text.glyphs.map fun g => ((map.find? (·.1 == g)).map Prod.snd).getD g
    on { m with space := { m.space with text := Octets.spelling t } }
  | .broken c => (.fail (.panic ("INTERNAL ERROR: Bad cmd ".toList ++ [c])), m)

/-- Run the script from command `i` on, each command taking one of the `fuel`. -/
def runScript (s : Settings) (channels : List Octets) (commands : Array Command) :
    Nat → Nat → Machine → Step × Nat × Machine
  | 0, _, m => (.stop 0, 0, m)
  | fuel + 1, i, m =>
    match commands[i]? with
    | none => (.cycle, fuel, if s.quiet then m else putLine s m mainOutlet m.space)
    | some c =>
      match m.isSelected s i c.selection with
      | .error r => (.fail r, fuel, m)
      | .ok (selected, m) =>
        let (step, m) :=
          if selected then m.act s channels i c.action
          else (.goOn (match c.action with
            | .block stop => stop
            | _ => i + 1), m)
        match step with
        | .goOn target => runScript s channels commands fuel target m
        | step => (step, fuel, m)

/-- Run the script for all lines. `true` is for a run that does not come to an end. -/
def runLines (s : Settings) (channels : List Octets) (commands : Array Command) :
    Nat → Nat → Bool → Machine → Machine × Bool
  | 0, _, _, m => (m, true)
  | rounds + 1, fuel, again, m =>
    let failed (r : Refusal) (m : Machine) : Machine × Bool :=
      ({ complain s m r.message with status := r.status }, false)
    let run (m : Machine) : Machine × Bool :=
      match m.runScript s channels commands fuel 0 with
      | (_, 0, m) => (m, true)
      | (.stop status, _, m) => ({ m.close s with status := if m.status = 0 then status else m.status }, false)
      | (.fail r, _, m) => failed r m
      | (.again, fuel, m) => runLines s channels commands rounds fuel true m
      | (_, fuel, m) => runLines s channels commands rounds fuel false m
    if again then run m
    else match m.readLine s with
      | (.error r, m) => failed r m
      | (.ok none, m) => (m, false)
      | (.ok (some l), m) => run { m with space := l }

end Machine

end ComponentFormat.Editor
