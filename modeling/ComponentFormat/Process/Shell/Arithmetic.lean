import ComponentFormat.Process.Shell.Integer
import ComponentFormat.Process.Shell.State

/-! # Arithmetic of the shell

Expressions of integers of 64 bits that wrap around. They are evaluated as they are read; the part of a choice that
is not taken is read without effect.
-/
namespace ComponentFormat.Shell.Arithmetic

inductive Operator where
  | times
  | divide
  | remainder
  | plus
  | minus
  | shiftLeft
  | shiftRight
  | less
  | atMost
  | greater
  | atLeast
  | equal
  | unequal
  | bitAnd
  | bitXor
  | bitOr
  deriving DecidableEq, Repr

/-- Operators of a smaller rank bind more closely. -/
def Operator.rank : Operator → Nat
  | times | divide | remainder => 0
  | plus | minus => 1
  | shiftLeft | shiftRight => 2
  | less | atMost | greater | atLeast => 3
  | equal | unequal => 4
  | bitAnd => 5
  | bitXor => 6
  | bitOr => 7

inductive Lexeme where
  | number (n : Int64)
  | name (t : Octets)
  | operator (o : Operator)
  | assign (o : Option Operator)
  | not
  | complement
  | and
  | or
  | question
  | colon
  | opens
  | closes
  | finish
  | bad
  deriving DecidableEq, Repr

def truth (b : Bool) : Int64 := if b then 1 else 0

/-- The signs of the operators, the longest first, and what each may be. -/
def signs : List (String × Lexeme) :=
  [("<<=", .assign (some .shiftLeft)), (">>=", .assign (some .shiftRight)), ("<<", .operator .shiftLeft),
    (">>", .operator .shiftRight), ("<=", .operator .atMost), (">=", .operator .atLeast), ("==", .operator .equal),
    ("!=", .operator .unequal), ("&&", .and), ("||", .or), ("*=", .assign (some .times)),
    ("/=", .assign (some .divide)), ("%=", .assign (some .remainder)), ("+=", .assign (some .plus)),
    ("-=", .assign (some .minus)), ("&=", .assign (some .bitAnd)), ("^=", .assign (some .bitXor)),
    ("|=", .assign (some .bitOr)), ("*", .operator .times), ("/", .operator .divide), ("%", .operator .remainder),
    ("+", .operator .plus), ("-", .operator .minus), ("<", .operator .less), (">", .operator .greater),
    ("&", .operator .bitAnd), ("^", .operator .bitXor), ("|", .operator .bitOr), ("=", .assign none), ("!", .not),
    ("~", .complement), ("?", .question), (":", .colon), ("(", .opens), (")", .closes)]

def lexeme (t : Octets) : Lexeme × Octets :=
  let t := t.dropWhile fun c => c == ' ' || c == '\t' || c == '\n'
  match t with
  | [] => (.finish, [])
  | c :: _ =>
    if isAsciiDigit c then
      match Integer.marked? t with
      | some (n, rest) => (.number (Int64.ofInt (Integer.clamped n)), rest)
      | none => (.bad, t)
    else if startsName c then (.name (t.takeWhile continuesName), t.dropWhile continuesName)
    else
      ((signs.findSome? fun p => (Text.after? p.1.toList t).map fun rest => (p.2, rest))).getD (.bad, t)

/-- What is left to read, the lexeme in front of it, and the whole text. -/
structure Input where
  lexeme : Lexeme
  rest : Octets
  source : Octets

abbrev Evaluation := StateT Input Sh

namespace Evaluation

variable {α : Type}

def refuse (reason : String) : Evaluation α := do
  let source := (← get).source
  Sh.fail ("arithmetic expression: ".toList ++ reason.toList ++ ": \"".toList ++ source ++ ['"'])

def advance : Evaluation Unit :=
  modify fun i =>
    let (lexeme, rest) := Arithmetic.lexeme i.rest
    { i with lexeme, rest }

def apply (o : Operator) (a b : Int64) : Evaluation Int64 :=
  match o with
  | .times => return a * b
  | .divide | .remainder => do
    if b = 0 then refuse "division by zero"
    else if a = Int64.minValue && b = -1 then throw (.killed 8)
    else return if o = .divide then a / b else a % b
  | .plus => return a + b
  | .minus => return a - b
  | .shiftLeft => return a <<< b
  | .shiftRight => return a >>> b
  | .less => return truth (a < b)
  | .atMost => return truth (a ≤ b)
  | .greater => return truth (b < a)
  | .atLeast => return truth (b ≤ a)
  | .equal => return truth (a = b)
  | .unequal => return truth (a ≠ b)
  | .bitAnd => return a &&& b
  | .bitXor => return a ^^^ b
  | .bitOr => return a ||| b

def lookUp (name : Octets) : Evaluation Int64 := do
  let value := ((← (Sh.lookUp? name : Sh _))).getD []
  match Integer.whole? true value with
  | some n => return Int64.ofInt n
  | none => Sh.fail ("Illegal number: ".toList ++ value)

/-- A value, `inside` reading what stands in parentheses; `idle` is set where nothing is to happen. -/
def primary (inside : Bool → Evaluation Int64) (idle : Bool) : Nat → Evaluation Int64
  | 0 => refuse "expecting primary"
  | fuel + 1 => do
    match (← get).lexeme with
    | .opens =>
      advance
      let n ← inside idle
      if (← get).lexeme ≠ .closes then refuse "expecting ')'"
      advance
      return n
    | .number n =>
      advance
      return n
    | .name t =>
      advance
      if idle then return 0 else lookUp t
    | .operator .plus =>
      advance
      primary inside idle fuel
    | .operator .minus =>
      advance
      return -(← primary inside idle fuel)
    | .not =>
      advance
      return truth ((← primary inside idle fuel) = 0)
    | .complement =>
      advance
      return ~~~(← primary inside idle fuel)
    | _ => refuse "expecting primary"

/-- What the operators of ranks below the limit make of a value. -/
def operate (operand : Evaluation Int64) (idle : Bool) : Nat → Nat → Int64 → Evaluation Int64
  | 0, _, a => return a
  | fuel + 1, limit, a => do
    match (← get).lexeme with
    | .operator o =>
      if limit ≤ o.rank then return a
      else
        advance
        let b ← operate operand idle fuel o.rank (← operand)
        let c ← if idle then pure b else apply o a b
        operate operand idle fuel limit c
    | _ => return a

def conjunction (inside : Bool → Evaluation Int64) : Nat → Bool → Evaluation Int64
  | 0, _ => refuse "expecting primary"
  | fuel + 1, idle => do
    let operand := primary inside idle (fuel + 1)
    let a ← operate operand idle (fuel + 1) 8 (← operand)
    if (← get).lexeme ≠ .and then return a
    else
      advance
      let b ← conjunction inside fuel (idle || a = 0)
      return truth (a ≠ 0 && b ≠ 0)

def disjunction (inside : Bool → Evaluation Int64) : Nat → Bool → Evaluation Int64
  | 0, _ => refuse "expecting primary"
  | fuel + 1, idle => do
    let a ← conjunction inside (fuel + 1) idle
    if (← get).lexeme ≠ .or then return a
    else
      advance
      let b ← disjunction inside fuel (idle || a ≠ 0)
      return truth (a ≠ 0 || b ≠ 0)

def choice (inside : Bool → Evaluation Int64) : Nat → Bool → Evaluation Int64
  | 0, _ => refuse "expecting primary"
  | fuel + 1, idle => do
    let a ← disjunction inside (fuel + 1) idle
    if (← get).lexeme ≠ .question then return a
    else
      advance
      let b ← inside (idle || a = 0)
      if (← get).lexeme ≠ .colon then refuse "expecting ':'"
      advance
      let c ← choice inside fuel (idle || a ≠ 0)
      return if a = 0 then c else b

def expression : Nat → Bool → Evaluation Int64
  | 0, _ => refuse "expecting primary"
  | fuel + 1, idle => do
    let before ← get
    let otherwise : Evaluation Int64 := do
      set before
      choice (expression fuel) (fuel + 1) idle
    match before.lexeme with
    | .name t =>
      advance
      match (← get).lexeme with
      | .assign o =>
        advance
        let b ← expression fuel idle
        if idle then return b
        else
          let n ← match o with
            | some o => apply o (← lookUp t) b
            | none => pure b
          Sh.setVariable t (some (Octets.ofInt n.toInt)) false
          return n
      | _ => otherwise
    | _ => otherwise

end Evaluation

def value (source : Octets) : Sh Int := do
  let (l, rest) := lexeme source
  let body : Evaluation Int64 := do
    let n ← Evaluation.expression (source.length + 2) false
    if (← get).lexeme ≠ .finish then Evaluation.refuse "expecting EOF"
    return n
  return (← body.run ⟨l, rest, source⟩).1.toInt

end ComponentFormat.Shell.Arithmetic
