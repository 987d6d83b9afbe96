import ComponentFormat.Keyed
import ComponentFormat.Process.Octets

/-! # What programs find under a path

The directories and programs of the system, its devices, and the files that programs have written. A path is
followed from the root or from the working directory, name by name.
-/
namespace ComponentFormat

/-- The names from the root down to a place. -/
abbrev Place := List Octets

inductive Device where
  /-- Empty to read, and what is written is gone. -/
  | null
  /-- An open stream of the one who asks, by its number. -/
  | stream (n : Nat)
  | terminal
  /-- Zeros without end to read, and no room to write. -/
  | full
  deriving DecidableEq, Repr

inductive DiskNode where
  | directory
  | program (name : String)
  | device (d : Device)
  | file (content : Octets)
  | foreign
  deriving DecidableEq, Repr

inductive DiskError where
  | missing
  | notDirectory
  | isDirectory
  | denied
  | tooLong
  | noDevice
  /-- A stream that is closed or does not do what is asked of it. -/
  | badStream
  | noSpace
  deriving DecidableEq, Repr

namespace DiskError

def number : DiskError → Nat
  | missing => 2
  | noDevice => 6
  | badStream => 9
  | denied => 13
  | notDirectory => 20
  | isDirectory => 21
  | noSpace => 28
  | tooLong => 36

def text : DiskError → String
  | missing => "No such file or directory"
  | noDevice => "No such device or address"
  | denied => "Permission denied"
  | notDirectory => "Not a directory"
  | isDirectory => "Is a directory"
  | tooLong => "File name too long"
  | badStream => "Bad file descriptor"
  | noSpace => "No space left on device"

end DiskError

structure Disk where
  files : List (Place × Octets)
  here : Place
  deriving DecidableEq, Repr

namespace Disk

def start : Place := ["tmp".toList, "work".toList]

def empty : Disk := ⟨[], start⟩

def directories : List Place :=
  [[], ["bin"], ["dev"], ["dev", "fd"], ["etc"], ["home"], ["lib"], ["opt"], ["proc"], ["root"], ["run"], ["sbin"],
    ["sys"], ["tmp"], ["tmp", "work"], ["usr"], ["usr", "bin"], ["usr", "lib"], ["usr", "local"],
    ["usr", "local", "bin"], ["usr", "local", "sbin"], ["usr", "sbin"], ["var"], ["var", "tmp"]].map
      (·.map String.toList)

def programDirectories : List Place := [["bin"], ["usr", "bin"]].map (·.map String.toList)

def programs : List String := ["cat", "dash", "sed", "sh", "sleep", "tr"]

def foreignFiles : List Place :=
  [["etc", "passwd"], ["etc", "group"], ["etc", "hosts"], ["etc", "hostname"]].map (·.map String.toList)

def devices : List (String × Device) :=
  [("full", .full), ("null", .null), ("stderr", .stream 2), ("stdin", .stream 0), ("stdout", .stream 1),
    ("tty", .terminal)]

/-- The device that the last two names stand for. -/
def deviceAt? (p : Place) : Option Device :=
  match p.map String.ofList with
  | ["dev", name] => Keyed.get? name devices
  | ["dev", "fd", n] => (if n.toList.all isAsciiDigit then n.toNat? else none).map .stream
  | _ => none

def programAt? (p : Place) : Option String :=
  if programDirectories.contains p.dropLast then
    programs.find? fun n => p.getLast? == some n.toList
  else none

def nodeAt? (d : Disk) (p : Place) : Option DiskNode :=
  if directories.contains p then some .directory
  else match programAt? p, deviceAt? p with
    | some name, _ => some (.program name)
    | none, some dev => some (.device dev)
    | none, none =>
      if foreignFiles.contains p then some .foreign else (Keyed.get? p d.files).map .file

def maxName : Nat := 255

def maxPath : Nat := 4095

/-- Follow the names from a place on. The last one need not be there. -/
def walk (d : Disk) (p : Place) : List Octets → Except DiskError Place
  | [] => .ok p
  | name :: names =>
    match d.nodeAt? p with
    | none => .error .missing
    | some .directory =>
      if name = ['.'] ∨ name = [] then d.walk p names
      else if name = ['.', '.'] then d.walk p.dropLast names
      else if maxName < name.length then .error .tooLong
      else d.walk (p ++ [name]) names
    | some _ => .error .notDirectory

def locate (d : Disk) (path : Octets) : Except DiskError Place :=
  if path.isEmpty then .error .missing
  else if maxPath < path.length then .error .tooLong
  else d.walk (if path.head? = some '/' then [] else d.here) (Text.splitAt (· == '/') path)

/-- The place of a file that may be a new one. What ends in a slash could only be a directory. -/
def locateNew (d : Disk) (path : Octets) : Except DiskError Place :=
  let bare := Text.trimEnd (· == '/') path
  if bare.isEmpty || bare.length = path.length then d.locate path
  else do
    let _ ← d.locate bare
    throw .isDirectory

def find (d : Disk) (path : Octets) : Except DiskError DiskNode := do
  match d.nodeAt? (← d.locate path) with
  | some node => return node
  | none => throw .missing

def programOf (d : Disk) (path : Octets) : Except DiskError String :=
  match d.find path with
  | .ok (.program name) => .ok name
  | .ok _ => .error .denied
  | .error e => .error e

/-- The program of a name that is looked for in directories, and its path. What speaks against the first place that
has something of the name is told if there is no such program. -/
def programIn (d : Disk) (name : Octets) : List Octets → Option DiskError → Except DiskError (String × Octets)
  | [], e? => .error (e?.getD .missing)
  | dir :: dirs, e? =>
    let path := if dir.isEmpty then name else dir ++ '/' :: name
    match d.programOf path with
    | .ok program => .ok (program, path)
    | .error .missing | .error .notDirectory => d.programIn name dirs e?
    | .error e => d.programIn name dirs (e?.or (some e))

/-- The place of a file that can be written, which may be a new one. -/
def creatable (d : Disk) (path : Octets) : Except DiskError Place := do
  let p ← d.locateNew path
  match d.nodeAt? p with
  | some .directory => throw .isDirectory
  | some (.program _) | some .foreign => throw .denied
  | some (.device _) | some (.file _) | none => return p

def content (d : Disk) (p : Place) : Octets := (Keyed.get? p d.files).getD []

def put (d : Disk) (p : Place) (content : Octets) : Disk :=
  { d with files := Keyed.put p content d.files }

/-- The names in a directory, itself and the one above it among them. -/
def entries (d : Disk) (p : Place) : List Octets :=
  let places := directories ++ foreignFiles ++ devices.map (fun v => ["dev".toList, v.1.toList]) ++
    d.files.map Prod.fst ++
    (if programDirectories.contains p then programs.map fun n => p ++ [n.toList] else [])
  let names := places.filterMap fun q => if q ≠ [] ∧ q.dropLast = p then q.getLast? else none
  ['.'] :: ['.', '.'] :: names.eraseDups

def pathOf (p : Place) : Octets := if p.isEmpty then ['/'] else p.flatMap ('/' :: ·)

end Disk

end ComponentFormat
