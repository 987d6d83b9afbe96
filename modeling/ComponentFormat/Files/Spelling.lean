import ComponentFormat.Files.Tree

/-! # Paths as they are written

To the system a path is the text that was written: a single dot is a name like any other, and a slash at the end
asks for a directory. Directories are made and files are put in place by such texts.
-/
namespace ComponentFormat

structure Spelling where
  text : Text
  deriving DecidableEq, Repr

namespace Spelling

def ofString (s : String) : Spelling := ⟨s.toList⟩

def names (s : Spelling) : List String :=
  ((Text.splitAt (· == '/') s.text).map String.ofList).filter (· != "")

def isAbsolute (s : Spelling) : Bool :=
  s.text.head? = some '/'

def endsInSlash (s : Spelling) : Bool :=
  s.text.getLast? = some '/'

/-- What stands in front of the last slash; of slashes alone all are kept. -/
def head (s : Spelling) : Spelling :=
  let front := (s.text.reverse.dropWhile (· != '/')).reverse
  let bare := Text.trimEnd (· == '/') front
  ⟨if bare.isEmpty then front else bare⟩

/-- What stands in front of the last name. -/
def parent (s : Spelling) : Spelling :=
  if s.endsInSlash then s.head.head else s.head

example : (ofString "a//b").head = ofString "a" := by decide +kernel
example : (ofString "a/").head = ofString "a" := by decide +kernel
example : (ofString "a/").parent = ofString "" := by decide +kernel
example : (ofString "//a").head = ofString "//" := by decide +kernel

/-! ## Looking up -/

def locate (s : Spelling) (t : FileTree) : Except FileError FileTree.Place :=
  if s.text.isEmpty then .error .notFound
  else t.follow s.isAbsolute s.names (String.ofList s.text).utf8ByteSize

def isDirectory (s : Spelling) (t : FileTree) : Bool :=
  match s.locate t with
  | .ok p =>
    match t.at? p with
    | some .directory => true
    | _ => false
  | .error _ => false

def leads (s : Spelling) (t : FileTree) : Bool :=
  match s.locate t with
  | .ok p => (t.at? p).isSome && (!s.endsInSlash || s.isDirectory t)
  | .error _ => false

/-- Where a file is to be found, which a slash at the end rules out. -/
def locateFile (s : Spelling) (t : FileTree) : Except FileError FileTree.Place := do
  let p ← s.locate t
  match t.at? p with
  | some (.file _) => if s.endsInSlash then throw .notDirectory
  | _ => pure ()
  return p

def read (s : Spelling) (t : FileTree) : Except FileError ByteArray := do
  t.contentAt (← s.locateFile t)

def remove (s : Spelling) (t : FileTree) : Except FileError FileTree := do
  let p ← s.locateFile t
  let _ ← t.contentAt p
  return ⟨t.entries.filter fun e => .inside e.1 != p⟩

/-! ## Making -/

/-- A tree after something was tried, and what went wrong. What was made before that stays. -/
abbrev Tried := FileTree × Option FileError

/-- Make one directory. Nothing may stand in its place, and the directories above it must be there. -/
def addDirectory (s : Spelling) (t : FileTree) : Except FileError FileTree := do
  let p ← s.locate t
  match t.at? p, p with
  | none, .inside place => return ⟨Keyed.put place .directory t.entries⟩
  | _, _ => throw .exists

/-- Make one directory, where one that is there already will do if `keep` is set. -/
def tryDirectory (keep : Bool) (s : Spelling) (t : FileTree) : Tried :=
  match s.addDirectory t with
  | .ok t => (t, none)
  | .error e => (t, if keep && s.isDirectory t then none else some e)

/-- Make a directory after those above it, at most so many levels, that are missing. A dot at the end is there
with the directory in front of it. -/
def makeFrom (keep : Bool) : Nat → Spelling → FileTree → Tried
  | 0, s, t => s.tryDirectory keep t
  | levels + 1, s, t =>
    if s.parent.text.isEmpty || s.parent.leads t then s.tryDirectory keep t
    else
      let (t, e?) := makeFrom keep levels s.parent t
      match e? with
      | none | some .exists => if s.names.getLast? = some "." then (t, none) else s.tryDirectory keep t
      | some e => (t, some e)

def makeDirectories (keep : Bool) (s : Spelling) (t : FileTree) : Tried :=
  s.makeFrom keep s.names.length t

/-- Give a file a new content. The directory must be there. -/
def write (s : Spelling) (t : FileTree) (content : ByteArray) : Except FileError FileTree := do
  let p ← s.locate t
  if s.endsInSlash then throw .isDirectory
  t.putAt p content

def create (s : Spelling) (t : FileTree) (content : ByteArray) : Tried :=
  let (t, e?) := if s.head.text.isEmpty then (t, none) else s.head.makeDirectories true t
  match e? with
  | some e => (t, some e)
  | none =>
    match s.write t content with
    | .ok t => (t, none)
    | .error e => (t, some e)

end Spelling

end ComponentFormat
