import ComponentFormat.Process.Disk
import ComponentFormat.Process.Pattern.Read

/-! # Scripts of the stream editor

A script is a row of commands. Each has a selection of the lines that it works on; blocks and branches name the
place in the row where to go on.
-/
namespace ComponentFormat.Editor

/-- What a line is selected by. -/
inductive Address where
  | line (n : Nat)
  /-- Every `step`-th line from the first one given. -/
  | every (first step : Nat)
  | last
  /-- The lines where an expression matches, or the expression that was used last. -/
  | found (e : Option Expression)
  deriving DecidableEq, Repr

inductive RangeEnd where
  | address (a : Address)
  /-- So many lines behind the first one. -/
  | further (n : Nat)
  /-- The next line whose number is a multiple. -/
  | multiple (n : Nat)
  deriving DecidableEq, Repr

/-- The lines that a command works on; all of them if there is no address. -/
structure Selection where
  first : Option Address
  last : Option RangeEnd
  negated : Bool
  deriving DecidableEq, Repr

inductive CaseChange where
  | keep
  | raise
  | lower
  deriving DecidableEq, Repr

/-- How case is changed: for all letters, and for the first one. -/
structure CaseStyle where
  all : CaseChange
  first : CaseChange
  deriving DecidableEq, Repr

/-- A piece of a replacement: some text, and what a group holds behind it. Group zero is the whole match. -/
structure Piece where
  front : Octets
  group : Option Nat
  style : CaseStyle
  deriving DecidableEq, Repr

structure Substitution where
  pattern : Option Expression
  pieces : List Piece
  isGlobal : Bool
  /-- The match to start with. -/
  number : Nat
  prints : Bool
  /-- The channel that the result is written to. -/
  channel : Option Nat
  deriving DecidableEq, Repr

inductive BranchTest where
  | always
  | ifReplaced
  | unlessReplaced
  deriving DecidableEq, Repr

inductive Action where
  /-- Go behind the block unless it is selected. -/
  | block (stop : Nat)
  | nothing
  | append (t : Octets)
  | insert (t : Octets)
  | change (t : Octets)
  | branch (test : BranchTest) (target : Nat)
  | delete
  | deleteLine
  | copyHold
  | appendHold
  | hold
  | holdMore
  | exchange
  | clear
  | next
  | nextMore
  | print
  | printLine
  | number
  | name
  | list (width : Option Nat)
  | quit (status : Nat)
  | leave (status : Nat)
  | readFile (name : Octets)
  | readLine (name : Octets)
  | write (channel : Nat)
  | writeLine (channel : Nat)
  | substitute (s : Substitution)
  | transform (map : List (Glyph × Glyph))
  /-- A command that is known but not there. -/
  | broken (c : Char)
  deriving DecidableEq, Repr

structure Command where
  selection : Selection
  action : Action
  deriving DecidableEq, Repr

inductive Refusal where
  /-- At a place of one of the scripts, which have numbers. -/
  | inScript (number place : Nat) (message : Octets)
  | inFile (name : Octets) (line : Nat) (message : Octets)
  /-- The editor gives up. -/
  | panic (message : Octets)
  deriving DecidableEq, Repr

namespace Refusal

def message : Refusal → Octets
  | inScript n place message =>
    "-e expression #".toList ++ Octets.ofNat n ++ ", char ".toList ++ Octets.ofNat place ++ ": ".toList ++
      message
  | inFile name line message =>
    "file ".toList ++ name ++ " line ".toList ++ Octets.ofNat line ++ ": ".toList ++ message
  | panic message => message

def status : Refusal → Nat
  | inScript .. | inFile .. => 1
  | panic _ => 4

end Refusal

end ComponentFormat.Editor
