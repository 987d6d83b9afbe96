import ComponentFormat.Process.Editor.Machine
import ComponentFormat.Process.Editor.Read
import ComponentFormat.Process.Sleep

/-! # The stream editor's command line

Scripts are given by switches, or the first argument is one; the other arguments are the files to edit.
-/
namespace ComponentFormat.Editor

def switches : List Switch :=
  [⟨'b', true, ["binary"], .nothing⟩, ⟨'E', true, ["regexp-extended"], .nothing⟩, ⟨'r', true, [], .nothing⟩,
    ⟨'D', false, ["debug"], .nothing⟩, ⟨'i', true, ["in-place"], .perhaps⟩,
    ⟨'e', true, ["expression"], .argument⟩, ⟨'f', true, ["file"], .argument⟩,
    ⟨'F', false, ["follow-symlinks"], .nothing⟩, ⟨'l', true, ["line-length"], .argument⟩,
    ⟨'z', true, ["null-data", "zero-terminated"], .nothing⟩, ⟨'q', false, ["quiet", "silent"], .nothing⟩,
    ⟨'n', true, [], .nothing⟩, ⟨'p', false, ["posix"], .nothing⟩, ⟨'S', false, ["sandbox"], .nothing⟩,
    ⟨'s', true, ["separate"], .nothing⟩, ⟨'u', true, ["unbuffered"], .nothing⟩,
    ⟨'v', false, ["version"], .nothing⟩, ⟨'h', false, ["help"], .nothing⟩]

def usage (s : Surroundings) : Octets :=
  "Usage: ".toList ++ s.name ++ " [OPTION]... \x7bscript-only-if-no-other-script\x7d [input-file]...\n".toList

/-- What the switches have set up, the scripts being read as they come. -/
structure Setup where
  settings : Settings
  dialect : Dialect
  draft : Draft
  scripts : Nat
  hasScript : Bool
  input : Octets

def Setup.start (s : Surroundings) : Setup where
  settings := ⟨s.name, false, false, false, false, '\n', 70, none⟩
  dialect := ⟨false, false, false⟩
  draft := ⟨[], 0, 0, .argument 0, true, #[], [], [], [], [], none, false, s.disk⟩
  scripts := 0
  hasScript := false
  input := s.input

def Setup.read (u : Setup) (origin : Origin) (t : Octets) : Except Refusal Setup := do
  let ((), draft) ← (Reading.script u.dialect origin t).run u.draft
  return { u with draft, hasScript := true }

def Setup.readArgument (u : Setup) (t : Octets) : Except Refusal Setup :=
  { u with scripts := u.scripts + 1 }.read (.argument (u.scripts + 1)) t

def Setup.readFile (u : Setup) (name : Octets) : Except Refusal Setup :=
  let cannot (e : DiskError) : Refusal :=
    .panic ("couldn't open file ".toList ++ name ++ ": ".toList ++ e.text.toList)
  let fromInput (u : Setup) : Except Refusal Setup :=
    { u with input := [] }.read (.file name) u.input
  if name = ['-'] then fromInput u
  else match u.draft.disk.find name with
    | .ok (.file t) => u.read (.file name) t
    | .ok (.device .null) => u.read (.file name) []
    | .ok (.device (.stream 0)) => fromInput u
    | .ok .directory => .error (.panic ("read error on ".toList ++ name ++ ": Is a directory".toList))
    | .ok (.device _) => .error (cannot .noDevice)
    | .ok (.program _) | .ok .foreign => .error (cannot .denied)
    | .error e => .error (cannot e)

def Setup.take (u : Setup) (p : Char × Option Octets) : Except Refusal Setup :=
  let value := p.2.getD []
  let set (f : Settings → Settings) : Except Refusal Setup := .ok { u with settings := f u.settings }
  match p.1 with
  | 'n' | 'q' => set fun s => { s with quiet := true }
  | 'E' | 'r' => .ok { u with dialect := { u.dialect with extended := true } }
  | 'i' => set fun s => { s with inPlace := some value, separate := true }
  | 'l' => set fun s => { s with width := (Number.natural? 10 (value.takeWhile isAsciiDigit)).getD 0 }
  | 'z' => set fun s => { s with delimiter := '\x00' }
  | 'p' => .ok { u with
      dialect := { u.dialect with isStrict := true }, settings := { u.settings with isStrict := true } }
  | 'S' => .ok { u with dialect := { u.dialect with sandboxed := true } }
  | 's' => set fun s => { s with separate := true }
  | 'u' => set fun s => { s with unbuffered := true }
  | 'e' => u.readArgument value
  | 'f' => u.readFile value
  | _ => .ok u

/-- What is read of an input at once. -/
def bufferSize : Nat := 4096

/-- What is left of an input when so many bytes have been used: all that is in a buffer is gone. -/
def leftBehind (s : Settings) (input : Octets) (used : Nat) : Octets :=
  if s.unbuffered then input.drop used
  else input.drop ((used / bufferSize + 1) * bufferSize)

/-- How many commands are run before a script counts as endless. -/
def fuelFor (commands bytes : Nat) : Nat := 20000 + 64 * (commands + 1) * (bytes + 1)

def Setup.run (u : Setup) (names : List Octets) (disk : Disk) (s : Surroundings) : Run :=
  let d := u.draft
  let settings := { u.settings with quiet := u.settings.quiet || d.quiet }
  let names := if names.isEmpty then [['-']] else names
  let m : Machine := {
    space := ⟨[], true⟩, held := ⟨[], true⟩, number := 0, replaced := false, waiting := [], ranges := []
    lastUsed := none, opened := none, names, input := u.input, inputFault := s.fault, readers := [], unended := []
    edited := none, disk, written := [], status := 0 }
  let bytes := u.input.length + (disk.files.map (·.2.length)).foldl Nat.add 0
  let fuel := fuelFor d.commands.size bytes
  let (m, endless) := m.runLines settings d.channels d.commands fuel fuel false
  let used := u.input.length - m.input.length
  let touched := used ≠ 0 || names.any fun n => n = ['-'] || n = "/dev/stdin".toList
  let input := if u.input.length < s.input.length then []
    else if touched then leftBehind settings u.input used
    else u.input
  let m := if s.hasOutput || m.status = 4 then m else
    { m.complain settings "couldn't close stdout: Bad file descriptor".toList with status := 4 }
  ⟨m.status % 256, m.written.reverse, input, m.disk, if endless then Run.forever else 0⟩

def run : Program := fun args s =>
  let refused (r : Refusal) : Run := .fails r.status r.message s
  match Switches.read switches true args with
  | .error e => { Run.ends 1 s with written := [Run.report s e.message, (.errors, usage s)] }
  | .ok found =>
    if found.has 'h' || found.has 'v' then .ends 0 s
    else
      match found.found.foldlM Setup.take (Setup.start s) with
      | .error r => refused r
      | .ok u =>
        match u.hasScript, found.others with
        | false, [] => { Run.ends 1 s with written := [(.errors, usage s)] }
        | hasScript, others =>
          match if hasScript then .ok u else u.readArgument (others.headD []) with
          | .error r => refused r
          | .ok u =>
            let names := if hasScript then others else others.drop 1
            match Reading.finish.run u.draft with
            | .error r => refused r
            | .ok ((), draft) =>
              if u.settings.inPlace.isSome && names.isEmpty then
                .fails 4 "no input files".toList s
              else { u with draft }.run names draft.disk s

end ComponentFormat.Editor
