import ComponentFormat.Engine.Basic
import ComponentFormat.Text.Case

/-! # Re-indenting engines

Engines that only indent, drop blank lines and unify quotes. They stand in for real ones where results have to
be the same everywhere; their own output gives them nothing to do.
-/
namespace ComponentFormat.Reindent

def isLineFeed (c : Char) : Bool := c == '\n'

/-- The lines without the blanks around them, blank ones dropped. -/
def bareLines (t : Text) : List Text :=
  ((Text.splitAt isLineFeed t).map Text.strip).filter (!·.isEmpty)

/-- What one level of depth is indented by: a character so many times. -/
structure Indent where
  char : Char
  width : Nat

namespace Indent

/-- No text has as many characters. -/
def maxWidth : Nat := twoTo 36

def isUsable (i : Indent) : Bool := i.width ≤ maxWidth

def ofOptions (o : Options) : Indent :=
  if o.flag .useTabs then ⟨'\t', 1⟩ else ⟨' ', o.count .tabWidth⟩

def lead (i : Indent) (depth : Nat) : Text :=
  List.replicate (depth * i.width) i.char

end Indent

/-- The depth after a line that stands at depth `d`. -/
def depthAfter (d : Nat) (line : Text) : Nat :=
  d + line.count '{' + (if line.head? = some '}' then 1 else 0) - line.count '}'

/-- Indent by the braces open so far. -/
def byBraces (indent : Indent) (depth : Nat) : List Text → List Text
  | [] => []
  | line :: more =>
    let d := if line.head? = some '}' then depth - 1 else depth
    (indent.lead d ++ line) :: byBraces indent (depthAfter d line) more

def reindented (t : Text) (indent : Indent) : List Text :=
  byBraces indent 0 (bareLines t)

def joined (lines : List Text) : Text :=
  Text.join ['\n'] lines

def unifyQuotes (single : Bool) (line : Text) : Text :=
  line.map fun c =>
    if single then (if c = '"' then '\'' else c) else (if c = '\'' then '"' else c)

def code (parser text : Text) (o : Options) : Reply :=
  let indent := Indent.ofOptions o
  if Text.contains "SYNTAX ERROR".toList text then
    .refused s!"SyntaxError: unexpected token ({String.ofList parser})"
  else if !indent.isUsable then .crashed
  else
    .text (joined ((reindented text indent).map (unifyQuotes (o.flag .singleQuote))) ++ ['\n'])

def stylesheet (dialect text : Text) (o : Options) : Reply :=
  let indent := Indent.ofOptions o
  if text.count '{' ≠ text.count '}' then
    .refused s!"CssSyntaxError: Unclosed block ({String.ofList dialect})"
  else if !indent.isUsable then .crashed
  else .text (joined (reindented text indent) ++ ['\n'])

def voidElements : List String :=
  ["area", "base", "br", "col", "embed", "hr", "img", "input", "link", "meta", "source", "track", "wbr"]

/-- The name of the tag that the line starts with. -/
def tagName? : Text → Option Text
  | '<' :: c :: t =>
    if isAsciiLetter c then some (c :: t.takeWhile fun d => Text.isWordCharacter d || d == '-') else none
  | _ => none

def opensElement (line : Text) : Bool :=
  match tagName? line with
  | none => false
  | some name =>
    !Text.contains ['<', '/'] line && !(['>', '/'].isPrefixOf line.reverse) &&
      !voidElements.any (·.toList == Text.lower name)

/-- Indent by the elements open so far, a closing line one step back. -/
def byElements (indent : Indent) (depth : Nat) : List Text → List Text
  | [] => []
  | line :: more =>
    if ['<', '/'].isPrefixOf line then
      (indent.lead (depth - 1) ++ line) :: byElements indent (depth - 1) more
    else
      (indent.lead depth ++ line) ::
        byElements indent (if opensElement line then depth + 1 else depth) more

def markup (text : Text) (o : Options) : Reply :=
  let indent : Indent := ⟨' ', o.markup.indentSize⟩
  if !indent.isUsable then .crashed
  else
    .text (joined (byElements indent 0 (bareLines text)) ++ if o.markup.endWithNewline then ['\n'] else [])

def engines : Engines := ⟨markup, code, stylesheet⟩

end ComponentFormat.Reindent
