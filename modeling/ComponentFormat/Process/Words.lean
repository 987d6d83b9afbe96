import ComponentFormat.Text.Basic

/-! # Command lines as words

Blanks part words; single quotes keep everything, double quotes keep everything but a backslash in front of a
double quote or a backslash; outside of quotes a backslash keeps the next character.
-/
namespace ComponentFormat

/-- A command line that stops inside a word. -/
inductive WordsError where
  | openQuote
  | openEscape
  deriving DecidableEq, Repr

namespace Words

def isSeparator (c : Char) : Bool := c == ' ' || c == '\t' || c == '\r' || c == '\n'

/-- Where the reading is: between words, or in a word and there perhaps behind a quote. -/
inductive Mode where
  | between
  | bare
  | single
  | double
  deriving DecidableEq

/-- The words from here on, `word` being the characters of the current one in reverse. -/
def readFrom : Mode → Text → Text → Except WordsError (List Text)
  | .between, _, [] => .ok []
  | .bare, word, [] => .ok [word.reverse]
  | .single, _, [] | .double, _, [] => .error .openQuote
  | .single, word, c :: t =>
    if c = '\'' then readFrom .bare word t else readFrom .single (c :: word) t
  | .double, word, '\\' :: c :: t =>
    if c = '"' || c = '\\' then readFrom .double (c :: word) t
    else readFrom .double (c :: '\\' :: word) t
  | .double, word, c :: t =>
    if c = '"' then readFrom .bare word t
    else if c = '\\' then .error .openEscape
    else readFrom .double (c :: word) t
  | .between, word, '\\' :: c :: t | .bare, word, '\\' :: c :: t => readFrom .bare (c :: word) t
  | mode, word, c :: t =>
    if c = '\\' then .error .openEscape
    else if c = '\'' then readFrom .single word t
    else if c = '"' then readFrom .double word t
    else if isSeparator c then
      if mode = .bare then (readFrom .between [] t).map (word.reverse :: ·) else readFrom .between [] t
    else readFrom .bare (c :: word) t

def split (t : Text) : Except WordsError (List Text) :=
  readFrom .between [] t

end Words

end ComponentFormat
