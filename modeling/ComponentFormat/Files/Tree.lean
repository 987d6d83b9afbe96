import ComponentFormat.Files.Path
import ComponentFormat.Keyed

/-! # A tree of files

Files and directories below one working directory. Every operation looks a path up first, directory by
directory; what lies outside of the working directory is not there.
-/
namespace ComponentFormat

inductive Entry where
  | directory
  | file (content : ByteArray)

/-- Entries by their names from the working directory down. -/
structure FileTree where
  entries : List (List String × Entry)

inductive FileError where
  | notFound
  | exists
  | notDirectory
  | isDirectory
  /-- The content is no UTF-8 text. -/
  | undecodable
  /-- A name that no file can have. -/
  | badName
  /-- A name or a whole path beyond what can be looked up. -/
  | tooLong
  deriving DecidableEq, Repr

namespace FileTree

def empty : FileTree := ⟨[]⟩

/-- The entry at a place; the working directory itself is always there. -/
def entry? (t : FileTree) (place : List String) : Option Entry :=
  if place.isEmpty then some .directory else Keyed.get? place t.entries

/-- Where a walk has come to: inside, or so many levels above the working directory. -/
inductive Place where
  | inside (names : List String)
  | above (levels : Nat)
  deriving DecidableEq, Repr

/-- The bytes that a name may have. -/
def maxName : Nat := 255

/-- The bytes that a whole path may have. -/
def maxPath : Nat := 4095

/-- Follow the names one by one. Each but the last must lead to a directory, in which a single dot stays. -/
def walk (t : FileTree) : Place → List String → Except FileError Place
  | p, [] => .ok p
  | .above n, name :: names =>
    if name = ".." then walk t (.above (n + 1)) names
    else if name = "." then walk t (.above n) names
    else if maxName < name.utf8ByteSize then .error .tooLong
    else .error .notFound
  | .inside place, name :: names =>
    match t.entry? place with
    | none => .error .notFound
    | some (.file _) => .error .notDirectory
    | some .directory =>
      if name = ".." then
        walk t (if place.isEmpty then .above 1 else .inside place.dropLast) names
      else if name = "." then walk t (.inside place) names
      else if maxName < name.utf8ByteSize then .error .tooLong
      else walk t (.inside (place ++ [name])) names

/-- Where names lead from the root or from the working directory, being written in so many bytes. -/
def follow (t : FileTree) (fromRoot : Bool) (names : List String) (bytes : Nat) : Except FileError Place :=
  if names.any fun n => n.toList.contains '\x00' then .error .badName
  else if maxPath < bytes then .error .tooLong
  else t.walk (if fromRoot then .above 0 else .inside []) names

/-- What is at a place; above the working directory there are directories. -/
def at? (t : FileTree) : Place → Option Entry
  | .above _ => some .directory
  | .inside place => t.entry? place

def contentAt (t : FileTree) (p : Place) : Except FileError ByteArray :=
  match t.at? p with
  | none => .error .notFound
  | some .directory => .error .isDirectory
  | some (.file content) => .ok content

def putAt (t : FileTree) (p : Place) (content : ByteArray) : Except FileError FileTree :=
  match t.at? p, p with
  | some .directory, _ | _, .above _ => .error .isDirectory
  | _, .inside place => .ok ⟨Keyed.put place (.file content) t.entries⟩

def locate (t : FileTree) (p : Path) : Except FileError Place :=
  t.follow p.isAbsolute p.names p.toString.utf8ByteSize

def read (t : FileTree) (p : Path) : Except FileError ByteArray := do
  t.contentAt (← t.locate p)

/-- Whether there is a file at the path. A path that leads nowhere has none, but one that is too long cannot be
looked up. -/
def isFile (t : FileTree) (p : Path) : Except FileError Bool :=
  match t.read p with
  | .ok _ => .ok true
  | .error .tooLong => .error .tooLong
  | .error _ => .ok false

def write (t : FileTree) (p : Path) (content : ByteArray) : Except FileError FileTree := do
  t.putAt (← t.locate p) content

def decode (content : ByteArray) : Except FileError Text :=
  match String.fromUTF8? content with
  | some s => .ok s.toList
  | none => .error .undecodable

def readText (t : FileTree) (p : Path) : Except FileError Text := do
  decode (← t.read p)

def writeText (t : FileTree) (p : Path) (content : Text) : Except FileError FileTree :=
  t.write p (String.ofList content).toUTF8

end FileTree

end ComponentFormat
