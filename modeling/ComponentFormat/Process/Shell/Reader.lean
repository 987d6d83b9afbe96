import ComponentFormat.Process.Shell.Parts

/-! # Reading commands

A script is read line by line: a line ends where a list of commands is complete. Commands stand inside of commands
and inside of words, so each level of reading is given the one below it.
-/
namespace ComponentFormat.Shell

inductive Extent where
  | line
  /-- Where the command around it goes on; it is not empty. -/
  | block
  /-- The same, but it may be empty. -/
  | mayBeEmpty
  deriving DecidableEq, Repr

structure Inner where
  list : Extent → Reading (Option Command)
  command : Reading Command

structure Asked where
  keywords : Bool
  skipsLines : Bool
  deriving DecidableEq, Repr

namespace Asked

def plain : Asked := ⟨false, false⟩

def command : Asked := ⟨true, false⟩

def fresh : Asked := ⟨true, true⟩

end Asked

/-- The commands that a function cannot be named for. -/
def specialNames : List String :=
  [".", ":", "break", "continue", "eval", "exec", "exit", "export", "local", "readonly", "return", "set", "shift",
    "times", "trap", "unset"]

namespace Command

def inBackground : Command → Command
  | pipeline cs _ => pipeline cs false
  | redirected line body rs => background line body rs
  | c => background 0 c []

def after (first? : Option Command) (second : Command) : Command :=
  match first? with
  | some first => sequence first second
  | none => second

end Command

namespace Reading

/-! ## Texts behind a line -/

/-- The lines of a text of the script up to its mark, what follows it, and how many lines that were. -/
def documentLines (mark : Octets) (strips joins : Bool) :
    Nat → Bool → Octets → Octets → Nat → Octets × Octets × Nat
  | 0, _, t, acc, n => (acc.reverse, t, n)
  | fuel + 1, continued, t, acc, n =>
    if t.isEmpty then (acc.reverse, [], n)
    else
      let t := if strips && !continued then t.dropWhile (· == '\t') else t
      let line := t.takeWhile (· != '\n')
      let rest := t.dropWhile (· != '\n')
      if !continued && line == mark then (acc.reverse, rest.drop 1, n + 1)
      else
        let continued := joins && (line.reverse.takeWhile (· == '\\')).length % 2 = 1
        documentLines mark strips joins fuel continued (rest.drop 1) (rest.take 1 ++ line.reverse ++ acc) (n + 1)

def document (nested : Nested) (a : Awaited) : Reading Unit := do
  let r ← get
  let (body, rest, n) := documentLines a.mark a.stripsTabs a.expands r.fuel false r.rest [] 0
  let word ←
    if a.expands then
      set { r with rest := body }
      parts nested r.fuel .document []
    else pure (body.map (.char · false))
  modify fun s => { s with
    rest, line := r.line + n, quoted := r.quoted, awaited := r.awaited, documents := (a.number, word) :: s.documents }

def documents (nested : Nested) : Reading Unit := do
  let awaited := (← get).awaited
  modify fun r => { r with awaited := [] }
  awaited.forM (document nested)

/-! ## Tokens -/

/-- The redirection at the front, behind the digit of its stream if there is one. -/
def redirection (stream? : Option Nat) : Reading Unit := do
  let r ←
    if ← accept '>' then
      let stream := stream?.getD 1
      if ← accept '>' then pure (.file stream .append [])
      else if ← accept '|' then pure (.file stream .overwrite [])
      else if ← accept '&' then pure (.duplicate stream [])
      else pure (.file stream .write [])
    else
      drop 1
      let stream := stream?.getD 0
      if ← accept '<' then
        let strips ← accept '-'
        pure (.document stream (if strips then 1 else 0) true)
      else if ← accept '&' then pure (.duplicate stream [])
      else if ← accept '>' then pure (.file stream .update [])
      else pure (.file stream .read [])
  modify fun s => { s with redirection := r }

/-- A word, or a redirection when one stands where the word ends. -/
def wordToken (nested : Nested) (f : Frame) : Reading Token := do
  modify fun r => { r with quoted := false }
  let word ← parts nested (← get).fuel f []
  let r ← get
  let stream? : Option (Option Nat) :=
    match word with
    | [] => some none
    | [.char d false] => (Number.digit? 10 d).map some
    | _ => none
  match r.rest.head?, stream? with
  | some '<', some stream? | some '>', some stream? =>
    if r.quoted then set { r with word }; return .word
    else redirection stream?; return .redirection
  | _, _ =>
    set { r with word }
    return .word

def rawToken (nested : Nested) (f : Frame) : Reading Token := do
  let r ← get
  if r.again then
    set { r with again := false }
    return r.token
  skipBlanks r.fuel
  let one (t : Token) : Reading Token := do
    drop 1
    return t
  let doubled (c : Char) (two single : Token) : Reading Token := do
    drop 1
    if ← accept c then return two else return single
  let t ← match (← get).rest with
    | [] => pure .endOfFile
    | '\n' :: t =>
      modify fun r => { r with rest := t, line := r.line + 1 }
      pure .newline
    | '&' :: _ => doubled '&' .andIf .ampersand
    | '|' :: _ => doubled '|' .orIf .bar
    | ';' :: _ => doubled ';' .branchEnd .semicolon
    | '(' :: _ => one .opens
    | ')' :: _ => one .closes
    | _ => wordToken nested f
  modify fun r => { r with token := t }
  return t

def withoutLines (nested : Nested) (f : Frame) : Nat → Token → Reading Token
  | fuel + 1, .newline => do
    documents nested
    withoutLines nested f fuel (← rawToken nested f)
  | _, t => return t

def tokenIn (nested : Nested) (f : Frame) (a : Asked) : Reading Token := do
  let t ← rawToken nested f
  let t ← if a.skipsLines then withoutLines nested f (← get).fuel t else pure t
  let r ← get
  match t, if a.keywords && !r.quoted then Keyword.ofText? (Part.literal r.word) else none with
  | .word, some k =>
    set { r with token := .keyword k }
    return .keyword k
  | _, _ => return t

variable (i : Inner)

def token (a : Asked) : Reading Token := tokenIn (i.list .mayBeEmpty) .bare a

def expect (a : Asked) (t : Token) : Reading Unit := do
  if (← token i a) ≠ t then unexpected (some t)

/-! ## Commands -/

/-- The redirection whose sign was read, with the word behind it. -/
def redirectionTarget : Reading Redirection := do
  let r := (← get).redirection
  match r with
  | .document stream strips _ =>
    if (← tokenIn (i.list .mayBeEmpty) .mark .plain) ≠ .word then unexpected none
    let s ← get
    let a : Awaited := ⟨s.next, Part.unquoted s.word, strips = 1, !s.quoted⟩
    set { s with awaited := s.awaited ++ [a], next := s.next + 1 }
    return .document stream a.number a.expands
  | .duplicate stream _ =>
    if (← token i .plain) ≠ .word then unexpected none
    return .duplicate stream (← get).word
  | .file stream mode _ =>
    if (← token i .plain) ≠ .word then unexpected none
    return .file stream mode (← get).word

def redirections : Nat → List Redirection → Reading (List Redirection)
  | 0, acc => return acc.reverse
  | fuel + 1, acc => do
    if (← token i .command) = .redirection then
      let r ← redirectionTarget i
      redirections fuel (r :: acc)
    else
      putBack
      return acc.reverse

def definition (name : Octets) : Reading Command := do
  expect i .plain .closes
  if !isName name || specialNames.any (·.toList == name) then fail "Bad function name"
  -- The next token is read as at the start of a command.
  let _ ← token i .fresh
  putBack
  let line := (← get).line
  return .definition line name (← i.command)

def simpleFrom (line : Nat) : Nat → List Word → List Word → List Redirection → Reading Command
  | 0, as, ws, rs => return .simple line as.reverse ws.reverse rs.reverse
  | fuel + 1, as, ws, rs => do
    match ← token i .plain with
    | .word =>
      let w := (← get).word
      if ws.isEmpty && isAssignment (Part.literal w) then simpleFrom line fuel (w :: as) ws rs
      else simpleFrom line fuel as (w :: ws) rs
    | .redirection =>
      let r ← redirectionTarget i
      simpleFrom line fuel as ws (r :: rs)
    | t =>
      match t, as, ws, rs with
      | .opens, [], [w], [] => definition i (Part.literal w)
      | _, as, ws, rs =>
        putBack
        return .simple line as.reverse ws.reverse rs.reverse

def conditionalFrom : Nat → Reading Command
  | 0 => fail "nesting"
  | fuel + 1 => do
    let test ← i.list .block
    expect i .plain (.keyword .then)
    let success ← i.list .block
    match ← token i .plain with
    | .keyword .elif =>
      return .conditional test success (some (← conditionalFrom fuel))
    | .keyword .otherwise => return .conditional test success (← i.list .block)
    | _ =>
      putBack
      return .conditional test success none

def wordsFrom : Nat → List Word → Reading (List Word)
  | 0, acc => return acc.reverse
  | fuel + 1, acc => do
    if (← token i .plain) = .word then wordsFrom fuel ((← get).word :: acc) else return acc.reverse

def eachCommand (line : Nat) : Reading Command := do
  let t ← token i .plain
  let r ← get
  if t ≠ .word || r.quoted || !isName (Part.literal r.word) then fail "Bad for loop variable"
  let words ←
    match ← token i .fresh with
    | .keyword .in =>
      let ws ← wordsFrom i r.fuel []
      let last := (← get).token
      if last ≠ .newline && last ≠ .semicolon then unexpected none
      pure ws
    | t =>
      if t ≠ .semicolon then putBack
      pure [Part.quotedArguments]
  expect i .fresh (.keyword .doing)
  return .each line (Part.literal r.word) words (← i.list .block)

def patternsFrom : Nat → List Word → Reading (List Word)
  | 0, acc => return acc.reverse
  | fuel + 1, acc => do
    let acc := (← get).word :: acc
    if (← token i .plain) = .bar then
      let _ ← token i .plain
      patternsFrom fuel acc
    else return acc.reverse

def branchesFrom : Nat → List (List Word × Option Command) → Reading (List (List Word × Option Command))
  | 0, acc => return acc.reverse
  | fuel + 1, acc => do
    match ← token i .fresh with
    | .keyword .esac => return acc.reverse
    | t =>
      if t = .opens then let _ ← token i .plain
      let patterns ← patternsFrom i (← get).fuel []
      if (← get).token ≠ .closes then unexpected (some .closes)
      let acc := (patterns, ← i.list .mayBeEmpty) :: acc
      match ← token i .fresh with
      | .keyword .esac => return acc.reverse
      | .branchEnd => branchesFrom fuel acc
      | _ => unexpected (some .branchEnd)

def choiceCommand (line : Nat) : Reading Command := do
  expect i .plain .word
  let subject := (← get).word
  expect i .fresh (.keyword .in)
  return .choice line subject (← branchesFrom i (← get).fuel [])

def withRedirections (line : Nat) (c : Command) : Reading Command := do
  match ← redirections i (← get).fuel [], c with
  | [], c => return c
  | rs, .subshell line body _ => return .subshell line body rs
  | rs, c => return .redirected line c rs

def commandWith (a : Asked) : Reading Command := do
  let line := (← get).line
  let fuel := (← get).fuel
  let closed (c : Command) (t : Token) : Reading Command := do
    expect i .plain t
    withRedirections i line c
  match ← token i a with
  | .keyword .if => closed (← conditionalFrom i fuel) (.keyword .fi)
  | .keyword .while =>
    let test ← i.list .block
    expect i .plain (.keyword .doing)
    closed (.loop false test (← i.list .block)) (.keyword .done)
  | .keyword .until =>
    let test ← i.list .block
    expect i .plain (.keyword .doing)
    closed (.loop true test (← i.list .block)) (.keyword .done)
  | .keyword .for => closed (← eachCommand i line) (.keyword .done)
  | .keyword .case => withRedirections i line (← choiceCommand i line)
  | .opens => closed (.subshell line (← i.list .block) []) .closes
  | .keyword .begins =>
    let body ← i.list .block
    closed (body.getD (.simple line [] [] [])) (.keyword .ends)
  | .word | .redirection =>
    putBack
    simpleFrom i (← get).line fuel [] [] []
  | _ => unexpected none

def pipelineFrom : Nat → List Command → Reading (List Command)
  | 0, acc => return acc.reverse
  | fuel + 1, acc => do
    if (← token i .plain) = .bar then
      let c ← commandWith i .fresh
      pipelineFrom fuel (c :: acc)
    else
      putBack
      return acc.reverse

def pipeline (a : Asked) : Reading Command := do
  let negated := (← token i a) = .keyword .bang
  if !negated then putBack
  let first ← commandWith i (if negated then .command else .plain)
  let c := match ← pipelineFrom i (← get).fuel [first] with
    | [c] => c
    | cs => .pipeline cs true
  return if negated then .negation c else c

def andOrFrom : Nat → Command → Reading Command
  | 0, c => return c
  | fuel + 1, c => do
    match ← token i .plain with
    | .andIf =>
      let d ← pipeline i .fresh
      andOrFrom fuel (.both c d)
    | .orIf =>
      let d ← pipeline i .fresh
      andOrFrom fuel (.either c d)
    | _ =>
      putBack
      return c

def listFrom (e : Extent) : Nat → Option Command → Reading (Option Command)
  | 0, front => return front
  | fuel + 1, front => do
    let nested := i.list .mayBeEmpty
    let finish : Reading (Option Command) := do
      documents nested
      modify fun r => { r with again := true, token := .endOfFile }
      return front
    match ← token i (if e = .line then .command else .fresh) with
    | .newline =>
      documents nested
      return front
    | .endOfFile => finish
    | t =>
      putBack
      if (e = .mayBeEmpty || (e = .block && front.isSome)) && t.endsList then return front
      let c ← andOrFrom i (← get).fuel (← pipeline i .plain)
      let t ← token i .plain
      let front := some (Command.after front (if t = .ampersand then c.inBackground else c))
      match t with
      | .endOfFile =>
        documents nested
        putBack
        return front
      | .newline =>
        putBack
        listFrom e fuel front
      | .ampersand | .semicolon => listFrom e fuel front
      | _ =>
        if e = .line then unexpected none
        putBack
        return front

end Reading

namespace Inner

def ofDepth : Nat → Inner
  | 0 => ⟨fun _ => Reading.fail "nesting", Reading.fail "nesting"⟩
  | depth + 1 =>
    let i := ofDepth depth
    ⟨fun e => do Reading.listFrom i e (← get).fuel none, Reading.commandWith i .fresh⟩

def depth : Nat := 1000

end Inner

/-- Read the next commands of a script, up to the end of a line. -/
def Reader.readLine (r : Reader) : Except SyntaxError (Option Command × Reader) :=
  (Inner.ofDepth Inner.depth).list .line { r with again := false, awaited := [] }

end ComponentFormat.Shell
