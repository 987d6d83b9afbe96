import ComponentFormat.Process.Run
import ComponentFormat.Process.Switches

/-! # Copying files one behind the other

The files named are written in order, a hyphen standing for the input. Lines can be numbered, blank lines squeezed,
and ends of lines, tabs and control characters shown.
-/
namespace ComponentFormat.Cat

def switches : List Switch :=
  [⟨'b', true, ["number-nonblank"], .nothing⟩, ⟨'n', true, ["number"], .nothing⟩,
    ⟨'s', true, ["squeeze-blank"], .nothing⟩, ⟨'v', true, ["show-nonprinting"], .nothing⟩,
    ⟨'E', true, ["show-ends"], .nothing⟩, ⟨'T', true, ["show-tabs"], .nothing⟩,
    ⟨'A', true, ["show-all"], .nothing⟩, ⟨'e', true, [], .nothing⟩, ⟨'t', true, [], .nothing⟩,
    ⟨'u', true, [], .nothing⟩, ⟨'h', false, ["help"], .nothing⟩, ⟨'V', false, ["version"], .nothing⟩]

structure Style where
  numbersLines : Bool
  numbersBlankLines : Bool
  squeezes : Bool
  showsEnds : Bool
  showsTabs : Bool
  showsControls : Bool

def Style.ofSwitches (s : Switches) : Style where
  numbersLines := s.has 'n' || s.has 'b'
  numbersBlankLines := !s.has 'b'
  squeezes := s.has 's'
  showsEnds := s.has 'E' || s.has 'A' || s.has 'e'
  showsTabs := s.has 'T' || s.has 'A' || s.has 't'
  showsControls := s.has 'v' || s.has 'A' || s.has 'e' || s.has 't'

def Style.isPlain (s : Style) : Bool :=
  !(s.numbersLines || s.squeezes || s.showsEnds || s.showsTabs || s.showsControls)

/-- Where the copying stands: lines numbered so far, and the line feeds in a row before this place, the start
counting as one. -/
structure Spot where
  lines : Nat
  feeds : Nat

/-- The number of a line, six places wide, and a tab. -/
def numbered (n : Nat) : Octets :=
  let ds := Octets.ofNat n
  List.replicate (6 - ds.length) ' ' ++ ds ++ ['\t']

def shownAscii (s : Style) (c : Char) : Octets :=
  if c = '\t' then (if s.showsTabs then ['^', 'I'] else [c])
  else if !s.showsControls then [c]
  else if c.toNat < 0x20 then ['^', Char.ofNat (c.toNat + 64)]
  else if c.toNat = 0x7F then ['^', '?']
  else [c]

/-- A byte as it is shown; the upper half shows like the lower one behind a mark. -/
def shown (s : Style) (c : Char) : Octets :=
  if s.showsControls && 0x80 ≤ c.toNat then
    let low := Char.ofNat (c.toNat - 0x80)
    ['M', '-'] ++
      (if low.toNat < 0x20 then ['^', Char.ofNat (low.toNat + 64)] else if low.toNat = 0x7F then ['^', '?'] else [low])
  else shownAscii s c

def copy (s : Style) : Spot → Octets → Octets × Spot
  | spot, [] => ([], spot)
  | spot, c :: t =>
    let starts := 1 ≤ spot.feeds
    if c = '\n' then
      if s.squeezes && 2 ≤ spot.feeds then copy s spot t
      else
        let counts := starts && s.numbersLines && s.numbersBlankLines
        let front := if counts then numbered (spot.lines + 1) else []
        let rest := copy s ⟨if counts then spot.lines + 1 else spot.lines, spot.feeds + 1⟩ t
        (front ++ (if s.showsEnds then ['$', '\n'] else ['\n']) ++ rest.1, rest.2)
    else
      let counts := starts && s.numbersLines
      let front := if counts then numbered (spot.lines + 1) else []
      let piece := if c = '\r' && s.showsEnds && t.head? = some '\n' then ['^', 'M'] else shown s c
      let rest := copy s ⟨if counts then spot.lines + 1 else spot.lines, 0⟩ t
      (front ++ piece ++ rest.1, rest.2)

def report (s : Surroundings) (name : Octets) (e : DiskError) : Outlet × Octets :=
  Run.report s (Octets.quoteName name ++ ": ".toList ++ e.text.toList)

def copyFiles (around : Surroundings) (s : Style) : Spot → Run → List Octets → Run
  | _, r, [] => r
  | spot, r, name :: names =>
    let give (content left : Octets) : Run :=
      let (o, spot) := if s.isPlain then (content, spot) else copy s spot content
      copyFiles around s spot { r with written := r.written ++ [(.output, o)], input := left } names
    let refuse (e : DiskError) : Run :=
      copyFiles around s spot { r with status := 1, written := r.written ++ [report around name e] } names
    let giveInput : Run :=
      match around.fault with
      | some e => refuse e
      | none => give r.input []
    if name = ['-'] then giveInput
    else match r.disk.find name with
      | .ok (.file content) => give content r.input
      | .ok (.device .null) => give [] r.input
      | .ok (.device (.stream 0)) => if around.hasInput then giveInput else refuse .missing
      | .ok (.device .full) => .endless around
      | .ok (.device _) => refuse .noDevice
      | .ok .directory => refuse .isDirectory
      | .ok (.program _) | .ok .foreign => refuse .denied
      | .error e => refuse e

def run : Program := fun args s =>
  match Switches.read switches true args with
  | .error e => .misused e.message s
  | .ok found =>
    if found.has 'h' || found.has 'V' then .ends 0 s
    else
      let names := if found.others.isEmpty then [['-']] else found.others
      let bad (what : String) : Octets := what.toList ++ ": ".toList ++ DiskError.badStream.text.toList
      if !s.hasOutput then .fails 1 (bad "standard output") s
      else
        let r := copyFiles s (.ofSwitches found) ⟨0, 1⟩ (.ends 0 s) names
        if !s.hasInput && names.contains ['-'] then
          { r with status := 1, written := r.written ++ [Run.report s (bad "closing standard input")] }
        else r

end ComponentFormat.Cat
