import ComponentFormat.Number
import ComponentFormat.Process.Shell.Tree

/-! # Tokens of the shell's language -/
namespace ComponentFormat.Shell

inductive Keyword where
  | bang
  | case
  | doing
  | done
  | elif
  | otherwise
  | esac
  | fi
  | for
  | if
  | in
  | then
  | until
  | while
  | begins
  | ends
  deriving DecidableEq, Repr

inductive Token where
  | endOfFile
  | newline
  | semicolon
  | ampersand
  | andIf
  | orIf
  | bar
  | opens
  | closes
  | branchEnd
  | redirection
  | word
  | keyword (k : Keyword)
  deriving DecidableEq, Repr

namespace Keyword

def spellings : List (String × Keyword) :=
  [("!", bang), ("case", .case), ("do", doing), ("done", done), ("elif", elif), ("else", otherwise), ("esac", esac),
    ("fi", fi), ("for", .for), ("if", .if), ("in", .in), ("then", .then), ("until", .until), ("while", .while),
    ("\x7b", begins), ("\x7d", ends)]

def ofText? (t : Octets) : Option Keyword := (spellings.find? (·.1.toList == t)).map Prod.snd

def spelling (k : Keyword) : String := ((spellings.find? (·.2 == k)).map Prod.fst).getD ""

end Keyword

namespace Token

def name : Token → String
  | endOfFile => "end of file"
  | newline => "newline"
  | semicolon => "\";\""
  | ampersand => "\"&\""
  | andIf => "\"&&\""
  | orIf => "\"||\""
  | bar => "\"|\""
  | opens => "\"(\""
  | closes => "\")\""
  | branchEnd => "\";;\""
  | redirection => "redirection"
  | word => "word"
  | keyword k => "\"" ++ k.spelling ++ "\""

def endsList : Token → Bool
  | endOfFile | closes | branchEnd => true
  | keyword k => [Keyword.doing, .done, .elif, .otherwise, .esac, .fi, .then, .ends].contains k
  | _ => false

end Token

/-- What is said about a text that is no command, with the line where it was found. -/
structure SyntaxError where
  message : String
  line : Nat
  deriving DecidableEq, Repr

/-- A text of the script that is to be read behind the line. -/
structure Awaited where
  number : Nat
  mark : Octets
  stripsTabs : Bool
  expands : Bool
  deriving DecidableEq, Repr

structure Reader where
  rest : Octets
  line : Nat
  /-- More than the characters of the script. -/
  fuel : Nat
  token : Token
  again : Bool
  word : Word
  quoted : Bool
  redirection : Redirection
  awaited : List Awaited
  documents : List (Nat × Word)
  next : Nat

namespace Reader

def start (script : Octets) (next : Nat) : Reader where
  rest := script
  line := 1
  fuel := script.length + 2
  token := .newline
  again := false
  word := []
  quoted := false
  redirection := .file 0 .read []
  awaited := []
  documents := []
  next := next

def isAtEnd (r : Reader) : Bool := r.again && r.token == .endOfFile

end Reader

abbrev Reading := StateT Reader (Except SyntaxError)

namespace Reading

variable {α : Type}

def fail (message : String) : Reading α := do throw ⟨message, (← get).line⟩

def unexpected (expected : Option Token) : Reading α := do
  let front := (← get).token.name ++ " unexpected"
  match expected with
  | none => fail front
  | some t => fail (front ++ " (expecting " ++ t.name ++ ")")

/-- A text without the joins of lines at its front, and how many there were. -/
def withoutJoins : Octets → Nat → Octets × Nat
  | '\\' :: '\n' :: t, n => withoutJoins t (n + 1)
  | t, n => (t, n)

def skipJoins : Reading Unit :=
  modify fun r =>
    match r.rest with
    | '\\' :: _ =>
      let (rest, n) := withoutJoins r.rest 0
      { r with rest, line := r.line + n }
    | _ => r

/-- The next character, which stays. -/
def peek : Reading (Option Char) := do
  skipJoins
  return (← get).rest.head?

def drop (n : Nat) : Reading Unit := modify fun r => { r with rest := r.rest.drop n }

def accept (c : Char) : Reading Bool := do
  if (← peek) == some c then drop 1; return true else return false

def putBack : Reading Unit := modify fun r => { r with again := true }

/-- The characters at the front that hold `p`, joins of lines among them being left out. -/
def takeWhile (p : Char → Bool) : Nat → Octets → Reading Octets
  | 0, acc => return acc.reverse
  | fuel + 1, acc => do
    match ← peek with
    | some c => if p c then drop 1; takeWhile p fuel (c :: acc) else return acc.reverse
    | none => return acc.reverse

def skipBlanks : Nat → Reading Unit
  | 0 => return
  | fuel + 1 => do
    match ← peek with
    | some ' ' | some '\t' => drop 1; skipBlanks fuel
    | some '#' =>
      modify fun r => { r with rest := r.rest.dropWhile (· != '\n') }
      skipBlanks fuel
    | _ => return

end Reading

end ComponentFormat.Shell
