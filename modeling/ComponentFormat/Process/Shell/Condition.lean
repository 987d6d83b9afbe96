import ComponentFormat.Process.Disk
import ComponentFormat.Process.Shell.Integer

/-! # Conditions on texts, numbers and files

The arguments of a test are read from left to right; which of them are operators depends on what stands around them.
-/
namespace ComponentFormat.Shell.Condition

inductive Unary where
  | isEmpty
  | isFull
  | isTerminal
  | file (letter : Char)
  deriving DecidableEq, Repr

inductive Binary where
  | same
  | different
  | before
  | behind
  | number (holds : Ordering → Bool)
  | newer
  | older
  | sameFile

inductive Operator where
  | unary (u : Unary)
  | binary (b : Binary)
  | not
  | and
  | or
  | opens
  | closes

def operators : List (String × Operator) :=
  ["-r", "-w", "-x", "-e", "-f", "-d", "-c", "-b", "-p", "-u", "-g", "-k", "-s", "-h", "-L", "-S", "-O", "-G"].map
    (fun n => (n, .unary (.file (n.toList.getLastD '-')))) ++
  [("-t", .unary .isTerminal), ("-z", .unary .isEmpty), ("-n", .unary .isFull), ("=", .binary .same),
    ("!=", .binary .different), ("<", .binary .before), (">", .binary .behind),
    ("-eq", .binary (.number (· == .eq))), ("-ne", .binary (.number (· != .eq))),
    ("-ge", .binary (.number (· != .lt))), ("-gt", .binary (.number (· == .gt))),
    ("-le", .binary (.number (· != .gt))), ("-lt", .binary (.number (· == .lt))), ("-nt", .binary .newer),
    ("-ot", .binary .older), ("-ef", .binary .sameFile), ("!", .not), ("-a", .and), ("-o", .or), ("(", .opens),
    (")", .closes)]

def operator? (t : Octets) : Option Operator := (operators.find? (·.1.toList == t)).map Prod.snd

def isBinary (t : Octets) : Bool :=
  match operator? t with
  | some (.binary _) => true
  | _ => false

/-- What the first of some arguments is: nothing, an operator, or an operand. -/
inductive Lexeme where
  | none
  | operator (o : Operator)
  | operand

/-- A sign for one operand is an operand itself when it stands alone or in front of a sign for two. -/
def lexeme : List Octets → Lexeme
  | [] => .none
  | a :: rest =>
    match operator? a, rest with
    | none, _ => .operand
    | some (.unary _), [] => .operand
    | some (.unary u), b :: more => if !more.isEmpty && isBinary b then .operand else .operator (.unary u)
    | some .opens, [] => .operand
    | some o, _ => .operator o

def fileHolds (d : Disk) (letter : Char) (path : Octets) : Bool :=
  match d.find path with
  | .error _ => false
  | .ok node =>
    match letter, node with
    | 'e', _ | 'r', _ | 'w', _ | 'O', _ | 'G', _ => true
    | 'f', .program _ | 'f', .file _ | 'f', .foreign => true
    | 'd', .directory | 'x', .directory | 'x', .program _ => true
    | 'c', .device _ => true
    | 's', .directory | 's', .program _ | 's', .foreign => true
    | 's', .file content => !content.isEmpty
    | _, _ => false

abbrev Judging := Except Octets

def number (t : Octets) : Judging Int :=
  match Integer.whole? false t with
  | some n => .ok n
  | none => .error ("Illegal number: ".toList ++ t)

def unary (d : Disk) (u : Unary) (a : Octets) : Judging Bool :=
  match u with
  | .isEmpty => .ok a.isEmpty
  | .isFull => .ok !a.isEmpty
  | .isTerminal => (number a).map fun _ => false
  | .file letter => .ok (fileHolds d letter a)

def binary (d : Disk) (o : Binary) (a b : Octets) : Judging Bool :=
  match o with
  | .same => .ok (a = b)
  | .different => .ok (a ≠ b)
  | .before => .ok (decide (a < b))
  | .behind => .ok (decide (b < a))
  | .number holds => do return holds (compare (← number a) (← number b))
  | .newer => .ok ((d.find a).isOk && !(d.find b).isOk)
  | .older => .ok (!(d.find a).isOk && (d.find b).isOk)
  | .sameFile =>
    match d.locate a, d.locate b with
    | .ok p, .ok q => .ok (p = q && (d.find a).isOk)
    | _, _ => .ok false

/-- A judgement and the arguments from the last one used on. -/
abbrev Judged := Judging (Bool × List Octets)

/-- The text of an operator that lacks its operand. -/
def lacksOperand (sign : Octets) : Judged := .error (sign ++ ": argument expected".toList)

/-- The simple conditions, and those in parentheses. -/
def primary (d : Disk) (inside : List Octets → Judged) (args : List Octets) : Judged :=
  match lexeme args, args with
  | .none, _ => .ok (false, args)
  | .operator .opens, _ :: rest =>
    match lexeme rest with
    | .operator .closes => .ok (false, rest)
    | _ => do
      let (b, left) ← inside rest
      match lexeme (left.drop 1) with
      | .operator .closes => return (b, left.drop 1)
      | _ => throw "closing paren expected".toList
  | .operator (.unary _), [sign] => lacksOperand sign
  | .operator (.unary u), _ :: a :: rest => do return (← unary d u a, a :: rest)
  | _, a :: rest =>
    match lexeme rest, rest with
    | .operator (.binary _), [sign] => lacksOperand sign
    | .operator (.binary o), _ :: b :: more => do return (← binary d o a b, b :: more)
    | _, _ => .ok (!a.isEmpty, a :: rest)
  | _, [] => .ok (false, [])

def negation (d : Disk) (inside : List Octets → Judged) : Nat → List Octets → Judged
  | 0, args => .ok (false, args)
  | fuel + 1, args =>
    match lexeme args, args with
    | .operator .not, a :: rest => do
      let (b, left) ← match lexeme rest with
        | .none => primary d inside []
        | _ => negation d inside fuel rest
      return (!b, if rest.isEmpty then [a] else left)
    | _, _ => primary d inside args

def conjunction (d : Disk) (inside : List Octets → Judged) : Nat → Bool → List Octets → Judged
  | 0, _, args => .ok (false, args)
  | fuel + 1, so, args => do
    let (b, left) ← negation d inside (fuel + 1) args
    match lexeme (left.drop 1) with
    | .operator .and => conjunction d inside fuel (so && b) (left.drop 2)
    | _ => return (so && b, left)

def disjunction (d : Disk) (inside : List Octets → Judged) : Nat → Bool → List Octets → Judged
  | 0, _, args => .ok (false, args)
  | fuel + 1, so, args => do
    let (b, left) ← conjunction d inside (fuel + 1) true args
    match lexeme (left.drop 1) with
    | .operator .or => disjunction d inside fuel (so || b) (left.drop 2)
    | _ => return (so || b, left)

def expression (d : Disk) : Nat → List Octets → Judged
  | 0, args => .ok (false, args)
  | fuel + 1, args => disjunction d (expression d fuel) (args.length + 1) false args

/-- Judge the arguments of a test. Three of them with a sign for two in the middle are that condition. -/
def holds (d : Disk) (args : List Octets) : Judging Bool := do
  if args.isEmpty then return false
  let middle := args.length = 3 && isBinary ((args[1]?).getD [])
  let wrapped := (args.length = 3 || args.length = 4) && args.head? = some ['('] && args.getLast? = some [')']
  let args := if !middle && wrapped then args.tail.dropLast else args
  let (b, left) ←
    if middle then
      match args with
      | [a, sign, b] =>
        match operator? sign with
        | some (.binary o) => pure (← binary d o a b, [b])
        | _ => pure (false, [])
      | _ => pure (false, [])
    else expression d (args.length + 1) args
  match left with
  | a :: _ :: _ => throw ((if a.isEmpty then [] else a ++ ": ".toList) ++ "unexpected operator".toList)
  | _ => return b

end ComponentFormat.Shell.Condition
