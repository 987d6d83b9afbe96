import ComponentFormat.Text.Basic

/-! # The lines of a text

A text is cut into lines, each but the last with the terminator that ends it; CR LF is one terminator.
Main statement: `toText_ofText`, nothing of the text is lost.
-/
namespace ComponentFormat

inductive Terminator where
  | lf
  | crlf
  | cr
  deriving DecidableEq, Repr

namespace Terminator

def text : Terminator → Text
  | lf => ['\n']
  | crlf => ['\r', '\n']
  | cr => ['\r']

def all : List Terminator := [lf, crlf, cr]

end Terminator

/-- The lines that a terminator ends, and the text after the last terminator. -/
structure Lines where
  ended : List (Text × Terminator)
  last : Text
  deriving DecidableEq, Repr

namespace Lines

def push (c : Char) (l : Lines) : Lines :=
  match l.ended with
  | [] => { l with last := c :: l.last }
  | (line, e) :: more => { l with ended := (c :: line, e) :: more }

def breakWith (e : Terminator) (l : Lines) : Lines :=
  { l with ended := ([], e) :: l.ended }

def ofText : Text → Lines
  | [] => ⟨[], []⟩
  | '\r' :: '\n' :: t => (ofText t).breakWith .crlf
  | c :: t =>
    if c = '\n' then (ofText t).breakWith .lf
    else if c = '\r' then (ofText t).breakWith .cr
    else (ofText t).push c

def toText (l : Lines) : Text :=
  l.ended.flatMap (fun p => p.1 ++ p.2.text) ++ l.last

def texts (l : Lines) : List Text :=
  l.ended.map Prod.fst ++ [l.last]

def terminators (l : Lines) : List Terminator :=
  l.ended.map Prod.snd

def count (l : Lines) : Nat :=
  l.ended.length + 1

/-- The terminator that occurs more often than each of the others; a line feed when there is none. -/
def dominant (l : Lines) : Terminator :=
  let ends := l.terminators
  let wins (e : Terminator) := Terminator.all.all fun d => d == e || ends.count d < ends.count e
  (Terminator.all.find? wins).getD .lf

def renderBy (write : Terminator → Text) (l : Lines) : Text :=
  l.ended.flatMap (fun p => p.1 ++ write p.2) ++ l.last

def renderWith (e : Text) (l : Lines) : Text :=
  l.renderBy fun _ => e

@[simp] theorem toText_push (c : Char) (l : Lines) : (l.push c).toText = c :: l.toText := by
  rcases l with ⟨_ | ⟨⟨line, e⟩, more⟩, last⟩ <;> simp [push, toText]

@[simp] theorem toText_breakWith (e : Terminator) (l : Lines) :
    (l.breakWith e).toText = e.text ++ l.toText := by
  simp [breakWith, toText]

@[simp] theorem toText_ofText (t : Text) : (ofText t).toText = t := by
  fun_induction ofText t with
  | case1 => rfl
  | case2 t ih => simp [Terminator.text, ih]
  | case3 t _ ih => simp [Terminator.text, ih]
  | case4 t _ _ ih => simp [Terminator.text, ih]
  | case5 c t _ _ _ ih => simp [ih]

end Lines

/-- The text with every terminator replaced by `e`. -/
def Text.withTerminator (e t : Text) : Text :=
  (Lines.ofText t).renderWith e

end ComponentFormat
