import ComponentFormat.Text.Basic

/-! # Paths

A path is a row of names. Empty names and single dots drop out when it is read; two dots stay, for what they
mean depends on the directories there are.
-/
namespace ComponentFormat

/-- Where a path starts: at the working directory, at the root, or at the root when it is written with two
slashes. -/
inductive PathStart where
  | here
  | root
  | doubleRoot
  deriving DecidableEq, Repr

namespace PathStart

def text : PathStart → String
  | here => ""
  | root => "/"
  | doubleRoot => "//"

/-- Two slashes in front are kept, more of them count as one. -/
def ofText : Text → PathStart
  | '/' :: '/' :: '/' :: _ => .root
  | '/' :: '/' :: _ => .doubleRoot
  | '/' :: _ => .root
  | _ => .here

end PathStart

structure Path where
  start : PathStart
  names : List String
  deriving DecidableEq, Repr

namespace Path

def ofString (s : String) : Path :=
  let names := (Text.splitAt (· == '/') s.toList).map String.ofList
  ⟨.ofText s.toList, names.filter fun n => n != "" && n != "."⟩

def toString (p : Path) : String :=
  let text := p.start.text ++ "/".intercalate p.names
  if text.isEmpty then "." else text

def isAbsolute (p : Path) : Bool :=
  p.start != .here

def parent (p : Path) : Path :=
  { p with names := p.names.dropLast }

def child (p : Path) (name : String) : Path :=
  { p with names := p.names ++ [name] }

example : (ofString "./a//b/").toString = "a/b" := by decide +kernel
example : (ofString "a/../b").toString = "a/../b" := by decide +kernel
example : (ofString "").toString = "." := by decide +kernel
example : (ofString "//a").toString = "//a" := by decide +kernel
example : (ofString "///a").toString = "/a" := by decide +kernel

end Path

end ComponentFormat
