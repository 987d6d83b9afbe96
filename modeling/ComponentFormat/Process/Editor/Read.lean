import ComponentFormat.Process.Editor.Basic
import ComponentFormat.Process.Editor.Escapes

/-! # Reading scripts of the stream editor

Characters are read one by one, and a report tells how many have been read. The text of a command may go on in the
next script, and so may a block. Branches are resolved when all scripts have been read.
-/
namespace ComponentFormat.Editor

inductive Origin where
  | argument (number : Nat)
  | file (name : Octets)
  deriving DecidableEq, Repr

structure Dialect where
  extended : Bool
  /-- Only what the standard knows. -/
  isStrict : Bool
  sandboxed : Bool
  deriving DecidableEq, Repr

/-- A branch whose label is not resolved yet. -/
structure Jump where
  command : Nat
  label : Octets
  deriving DecidableEq, Repr

structure Draft where
  rest : Octets
  taken : Nat
  lines : Nat
  origin : Origin
  isFirst : Bool
  commands : Array Command
  /-- The open blocks, the innermost first, and where they come from. -/
  blocks : List (Nat × Origin × Nat)
  labels : List (Octets × Nat)
  jumps : List Jump
  channels : List Octets
  /-- The text of the last command, while it may go on. -/
  pending : Option Octets
  quiet : Bool
  disk : Disk

abbrev Reading := StateT Draft (Except Refusal)

namespace Reading

def refuseAt {α : Type} (origin : Origin) (lines place : Nat) (message : Octets) : Reading α :=
  throw (match origin with
    | .argument n => .inScript n place message
    | .file name => .inFile name lines message)

def refuse {α : Type} (message : String) : Reading α := do
  let d ← get
  refuseAt d.origin (d.lines + 1) d.taken message.toList

def panic {α : Type} (message : Octets) : Reading α := throw (.panic message)

def next : Reading (Option Char) := do
  let d ← get
  match d.rest with
  | [] => return none
  | c :: rest =>
    set { d with rest, taken := d.taken + 1, lines := if c = '\n' then d.lines + 1 else d.lines }
    return some c

def back : Option Char → Reading Unit
  | none => pure ()
  | some c =>
    modify fun d => { d with
      rest := c :: d.rest, taken := d.taken - 1, lines := if c = '\n' then d.lines - 1 else d.lines }

def nextWhile (p : Char → Bool) : Reading Octets := do
  let d ← get
  let found := d.rest.takeWhile p
  set { d with
    rest := d.rest.dropWhile p, taken := d.taken + found.length
    lines := d.lines + found.count '\n' }
  return found

def isBlank (c : Char) : Bool := c == ' ' || c == '\t'

def isSpace (c : Char) : Bool := c == ' ' || ('\t' ≤ c && c ≤ '\r')

def nextNonBlank : Reading (Option Char) := do
  let _ ← nextWhile isBlank
  next

/-- A number whose first digit is given. -/
def number (c : Option Char) : Reading Nat := do
  back c
  return (Number.natural? 10 (← nextWhile isAsciiDigit)).getD 0

def isDigit (c : Option Char) : Bool := c.any isAsciiDigit

def endOfCommand : Reading Unit := do
  match ← nextNonBlank with
  | none | some '\n' | some ';' => pure ()
  | some '\x7d' => back (some '\x7d')
  | some '#' => back (some '#')
  | some _ => refuse "extra characters after command"

inductive SetState where
  | outside
  | behindBracket
  /-- In a name that its mark closes. -/
  | inName (mark : Char)
  | behindMark (mark : Char)

/-- The state behind a character that does not end the set. -/
def SetState.step (s : SetState) (c : Char) : SetState :=
  let isMark := c = '.' || c = ':' || c = '='
  match s with
  | .behindBracket => if isMark then .inName c else if c = '[' then .behindBracket else .outside
  | .inName m => if isMark && c = m then .behindMark m else .inName m
  | .behindMark m => if c = ']' then .outside else if c = '[' then .behindMark m else .inName m
  | .outside => if c = '[' then .behindBracket else .outside

def SetState.mayEnd : SetState → Bool
  | .outside | .behindBracket => true
  | .inName _ | .behindMark _ => false

def restOfSet : SetState → Octets → Option Octets
  | _, [] => none
  | s, c :: t =>
    if c = '\n' then none
    else if c = ']' && s.mayEnd then some [c]
    else (restOfSet (s.step c) t).map (c :: ·)

def wholeSet (t : Octets) : Option Octets :=
  let front := match t with
    | '^' :: ']' :: _ => 2
    | '^' :: _ | ']' :: _ => 1
    | _ => 0
  (restOfSet .outside (t.drop front)).map (t.take front ++ ·)

/-- A text and the delimiter behind it, or how much is read when there is none. -/
def delimited (slash : Char) (inPattern : Bool) : Nat → Octets → Octets → Except Nat (Octets × Nat)
  | 0, _, _ => .error 0
  | _ + 1, _, [] => .error 0
  | fuel + 1, found, c :: t =>
    let on (n : Nat) (r : Except Nat (Octets × Nat)) : Except Nat (Octets × Nat) :=
      match r with
      | .ok (o, k) => .ok (o, k + n)
      | .error k => .error (k + n)
    if c = '\n' && c ≠ slash then .error 0
    else if c = slash then if c = '\n' then .error 0 else .ok (found.reverse, 1)
    else if c = '\\' then
      match t with
      | [] => .error 1
      | e :: t =>
        let plain := e = '\n' || (e = slash && (inPattern || e ≠ '&'))
        on 2 (delimited slash inPattern fuel
          (if inPattern && e = 'n' && slash ≠ 'n' then '\n' :: found
            else if plain then e :: found
            else e :: '\\' :: found) t)
    else if inPattern && c = '[' then
      match wholeSet t with
      | some s => on (1 + s.length) (delimited slash inPattern fuel (s.reverse ++ c :: found) (t.drop s.length))
      | none => .error (1 + (t.takeWhile (· != '\n')).length)
    else on 1 (delimited slash inPattern fuel (c :: found) t)

def text (slash : Option Char) (inPattern : Bool) : Reading (Option Octets) := do
  match slash with
  | none => return none
  | some slash =>
    if (Bytes.shape? slash.toNat).isSome then refuse "delimiter character is not a single-byte character"
    let d ← get
    let pass (n : Nat) : Draft :=
      { d with
        rest := d.rest.drop n, taken := d.taken + n
        lines := d.lines + (d.rest.take n).count '\n' }
    match delimited slash inPattern (d.rest.length + 1) [] d.rest with
    | .ok (t, n) => set (pass n); return some t
    | .error n => set (pass n); return none

def resolved (use : TextUse) (t : Octets) : Reading Octets :=
  match Escapes.resolve use (t.length + 1) t with
  | some t => pure t
  | none => refuse "recursive escaping after \\c not allowed"

/-- The expression that a text stands for; none for an empty text. -/
def expression (dialect : Dialect) (t : Octets) (ignoresCase multiline : Bool) (groups : Nat) :
    Reading (Option Expression) := do
  if t.isEmpty then
    if ignoresCase || multiline then refuse "cannot specify modifiers on empty regexp"
    return none
  match Expression.read ⟨dialect.extended, ignoresCase, multiline⟩ (← resolved .pattern t).glyphs with
  | .error e => refuse e.message
  | .ok e =>
    if e.groups < groups then
      refuse s!"invalid reference \\{groups} on \x60s' command's RHS"
    if e.misleads then panic "character class syntax is [[:space:]], not [:space:]".toList
    return some e

/-- Flags of an address behind its pattern: whether case is ignored, and whether lines have edges. -/
def addressFlags : Nat → Bool → Bool → Reading (Bool × Bool)
  | 0, i, m => pure (i, m)
  | fuel + 1, i, m => do
    match ← nextNonBlank with
    | some 'I' => addressFlags fuel true m
    | some 'M' => addressFlags fuel i true
    | c => do
      back c
      return (i, m)

def address (dialect : Dialect) (c : Option Char) : Reading (Option RangeEnd) := do
  match c with
  | some '/' | some '\\' =>
    let slash ← if c = some '\\' then next else pure c
    match ← text slash true with
    | none => refuse "unterminated address regex"
    | some t =>
      let (i, m) ← addressFlags ((← get).rest.length + 1) false false
      return some (.address (.found (← expression dialect t i m 0)))
  | some '$' => return some (.address .last)
  | some '+' =>
    if dialect.isStrict then return none
    return some (.further (← number (← nextNonBlank)))
  | some '~' =>
    if dialect.isStrict then return none
    return some (.multiple (← number (← nextNonBlank)))
  | _ =>
    if !isDigit c then return none
    let n ← number c
    let c ← nextNonBlank
    if c ≠ some '~' || dialect.isStrict then
      back c
      return some (.address (.line n))
    let step ← number (← nextNonBlank)
    return some (.address (if step = 0 then .line n else .every n step))

/-- The address that a range may start with. Nothing further on is every line. -/
def firstAddress (a : RangeEnd) : Reading Address :=
  match a with
  | .address a => pure a
  | .further 0 | .multiple 0 => pure (.every 0 1)
  | .further _ | .multiple _ => refuse "invalid usage of +N or ~N as first address"

def selection (dialect : Dialect) (c : Option Char) : Reading (Selection × Option Char) := do
  let (first, last, c) ← match ← address dialect c with
    | none => pure (none, none, c)
    | some a => do
      let first ← firstAddress a
      let c ← nextNonBlank
      let (last, c) ←
        if c = some ',' then do
          match ← address dialect (← nextNonBlank) with
          | none => refuse "unexpected \x60,'"
          | some last => pure (some last, ← nextNonBlank)
        else pure (none, c)
      let isFound := match last with
        | some (.address (.found _)) => true
        | _ => false
      if first = .line 0 && (!isFound || dialect.isStrict) then refuse "invalid usage of line address 0"
      pure (some first, last, c)
  if c ≠ some '!' then return (⟨first, last, false⟩, c)
  let c ← nextNonBlank
  if c = some '!' then refuse "multiple \x60!'s"
  return (⟨first, last, true⟩, c)

def isLabelEnd (c : Char) : Bool := isSpace c || c == ';' || c == '\x7d' || c == '#'

def label : Reading Octets := do
  let _ ← nextWhile isBlank
  nextWhile (!isLabelEnd ·)

def fileName : Reading Octets := do
  let _ ← nextWhile isBlank
  let name ← nextWhile (· != '\n')
  let _ ← next
  if name.isEmpty then refuse "missing filename in r/R/w/W commands"
  return name

/-- The channel to a file, which is made empty when it is named first. -/
def channel (name : Octets) : Reading Nat := do
  let d ← get
  match d.channels.findIdx? (· == name) with
  | some i => return i
  | none =>
    let d := { d with channels := d.channels ++ [name] }
    if name = "/dev/stdout".toList || name = "/dev/stderr".toList then set d
    else match d.disk.creatable name with
      | .error e => panic ("couldn't open file ".toList ++ name ++ ": ".toList ++ e.text.toList)
      | .ok p => set { d with disk := if (d.disk.nodeAt? p).any isDevice then d.disk else d.disk.put p [] }
    return d.channels.length - 1
where
  isDevice : DiskNode → Bool
    | .device _ => true
    | _ => false

/-- The text of a command up to the end of its line, as it is written; `true` if it goes on behind the end of the
script. -/
def lines : Octets → Octets → Octets × Nat × Bool
  | found, [] => (found.reverse, 0, false)
  | found, '\n' :: _ => (found.reverse, 1, false)
  | found, ['\\'] => (found.reverse, 1, true)
  | found, '\\' :: c :: t =>
    let (o, n, b) := lines (c :: '\\' :: found) t
    (o, n + 2, b)
  | found, c :: t =>
    let (o, n, b) := lines (c :: found) t
    (o, n + 1, b)

def setText (t : Octets) : Reading Unit :=
  modify fun d =>
    match d.commands.back? with
    | some c =>
      let action := match c.action with
        | .append _ => .append t
        | .insert _ => .insert t
        | .change _ => .change t
        | a => a
      { d with commands := d.commands.pop.push { c with action } }
    | none => d

def commandText (front : Octets) : Reading Unit := do
  let d ← get
  let (t, n, goesOn) := lines [] d.rest
  let d := { d with
    rest := d.rest.drop n, taken := d.taken + n, lines := d.lines + (d.rest.take n).count '\n' }
  let whole := front ++ t ++ ['\n']
  set { d with pending := if goesOn then some whole else none }
  setText (Escapes.bare (← resolved .plain whole))

structure Flags where
  isGlobal : Bool
  prints : Bool
  ignoresCase : Bool
  multiline : Bool
  number : Nat
  channel : Option Nat

def flags (dialect : Dialect) : Nat → Flags → Reading Flags
  | 0, f => pure f
  | fuel + 1, f => do
    let c ← next
    match c with
    | some ' ' | some '\t' => flags dialect fuel f
    | some 'i' | some 'I' =>
      if dialect.isStrict then refuse unknown
      flags dialect fuel { f with ignoresCase := true }
    | some 'm' | some 'M' => flags dialect fuel { f with multiline := true }
    | some 'e' => flags dialect fuel f
    | some 'p' =>
      if f.prints then refuse "multiple \x60p' options to \x60s' command"
      flags dialect fuel { f with prints := true }
    | some 'g' =>
      if f.isGlobal then refuse "multiple \x60g' options to \x60s' command"
      flags dialect fuel { f with isGlobal := true }
    | some 'w' =>
      if dialect.sandboxed then refuse "e/r/w commands disabled in sandbox mode"
      return { f with channel := some (← channel (← fileName)) }
    | none | some '\n' | some ';' => return f
    | some '\x7d' | some '#' => do
      back c
      return f
    | some '\r' =>
      if (← next) = some '\n' then return f
      refuse unknown
    | some d =>
      if !isAsciiDigit d then refuse unknown
      if f.number ≠ 0 then refuse "multiple number options to \x60s' command"
      let number ← number c
      if number = 0 then refuse "number option to \x60s' command may not be zero"
      flags dialect fuel { f with number }
where
  unknown : String := "unknown option to \x60s'"

/-- The pieces of a replacement. `style` is the one at hand, `later` the one behind the next piece. -/
def pieces (isStrict : Bool) : Octets → CaseStyle → CaseStyle → Octets → List Piece
  | front, style, _, [] => if front.isEmpty then [] else [⟨front.reverse, none, style⟩]
  | front, style, _, ['\\'] => [⟨('\\' :: front).reverse, none, style⟩]
  | front, style, later, '\\' :: c :: t =>
    let cut (style' later' : CaseStyle) : List Piece :=
      ⟨front.reverse, none, style⟩ :: pieces isStrict [] style' later' t
    let all (a : CaseChange) : List Piece := cut ⟨a, .keep⟩ ⟨a, .keep⟩
    if isAsciiDigit c then
      ⟨front.reverse, some (c.toNat - '0'.toNat), style⟩ :: pieces isStrict [] later later t
    else if isStrict then pieces isStrict (c :: front) style later t
    else match c with
      | 'L' => all .lower
      | 'U' => all .raise
      | 'E' => all .keep
      | 'l' => cut ⟨later.all, .lower⟩ later
      | 'u' => cut ⟨later.all, .raise⟩ later
      | c => pieces isStrict (c :: front) style later t
  | front, style, later, '&' :: t => ⟨front.reverse, some 0, style⟩ :: pieces isStrict [] later later t
  | front, style, later, c :: t => pieces isStrict (c :: front) style later t

def plainStyle : CaseStyle := ⟨.keep, .keep⟩

def substitution (dialect : Dialect) : Reading Action := do
  let slash ← next
  let some pattern ← text slash true | refuse unterminated
  let some replacement ← text slash false | refuse unterminated
  let pieces := pieces dialect.isStrict [] plainStyle plainStyle (← resolved .replacement replacement)
  let groups := (pieces.filterMap (·.group)).foldl max 0
  let f ← flags dialect ((← get).rest.length + 1) ⟨false, false, false, false, 0, none⟩
  let pattern ← expression dialect pattern f.ignoresCase f.multiline groups
  return .substitute ⟨pattern, pieces, f.isGlobal, f.number, f.prints, f.channel⟩
where
  unterminated : String := "unterminated \x60s' command"

def transformed : List Glyph → List Glyph
  | .char '\\' :: .char 'n' :: t => .char '\n' :: transformed t
  | .char '\\' :: g :: t => g :: transformed t
  | g :: t => g :: transformed t
  | [] => []

def transformation : Reading Action := do
  let slash ← next
  let some source ← text slash false | refuse unterminated
  let source ← resolved .plain source
  let some target ← text slash false | refuse unterminated
  let target ← resolved .plain target
  let source := transformed source.glyphs
  let target := transformed target.glyphs
  if source.length ≠ target.length then refuse "strings for \x60y' command are different lengths"
  endOfCommand
  return .transform (source.zip target)
where
  unterminated : String := "unterminated \x60y' command"

def argument : Reading (Option Nat) := do
  let c ← nextNonBlank
  if isDigit c then
    let n ← number c
    endOfCommand
    return some n
  back c
  endOfCommand
  return none

def version? (t : Octets) : Option (List Nat) := (Text.splitAt (· == '.') t).mapM (Number.natural? 10)

def atMostVersion : List Nat → List Nat → Bool
  | [], _ => true
  | _ :: _, [] => false
  | a :: as, b :: bs => a < b || (a = b && atMostVersion as bs)

def simple? : Char → Option Action
  | '=' => some .number
  | 'd' => some .delete
  | 'D' => some .deleteLine
  | 'F' => some .name
  | 'g' => some .copyHold
  | 'G' => some .appendHold
  | 'h' => some .hold
  | 'H' => some .holdMore
  | 'n' => some .next
  | 'N' => some .nextMore
  | 'p' => some .print
  | 'P' => some .printLine
  | 'z' => some .clear
  | 'x' => some .exchange
  | _ => none

def addCommand (s : Selection) (action : Action) : Reading Unit :=
  modify fun d => { d with commands := d.commands.push ⟨s, action⟩ }

def textOfCommand (dialect : Dialect) : Reading Unit := do
  let c ← nextNonBlank
  match c with
  | none => refuse expected
  | some '\\' =>
    match ← next with
    | none => modify fun d => { d with pending := some [] }
    | some '\n' => commandText []
    | some c => commandText [c]
  | some c =>
    if dialect.isStrict then refuse expected
    back (some c)
    commandText []
where
  expected : String := "expected \\ after \x60a', \x60c' or \x60i'"

def isExtension (c : Char) : Bool := ['e', 'F', 'v', 'z', 'L', 'Q', 'T', 'R', 'W'].contains c

def takesOneAddress (c : Char) : Bool := ['a', 'i', 'l', '=', 'r'].contains c

def unknownCommand {α : Type} (c : Char) : Reading α := do
  let d ← get
  refuseAt d.origin (d.lines + 1) d.taken ("unknown command: \x60".toList ++ [c, '\''])

def branch (s : Selection) (test : BranchTest) : Reading Unit := do
  let name ← label
  modify fun d => { d with jumps := ⟨d.commands.size, name⟩ :: d.jumps }
  addCommand s (.branch test 0)

def closeBlock (s : Selection) : Reading Unit := do
  match (← get).blocks with
  | [] => refuse "unexpected \x60\x7d'"
  | (start, _) :: blocks =>
    if s.first.isSome then refuse "\x60\x7d' doesn't want any addresses"
    endOfCommand
    modify fun d => { d with
      blocks
      commands := d.commands.modify start fun c => { c with action := .block d.commands.size } }

def command (dialect : Dialect) (s : Selection) (c : Char) : Reading Unit := do
  if dialect.isStrict then
    if isExtension c then unknownCommand c
    if takesOneAddress c && s.last.isSome then refuse oneAddress
  match simple? c with
  | some action => do
    endOfCommand
    addCommand s action
  | none =>
  let files (f : Octets → Reading Unit) : Reading Unit := do
    if dialect.sandboxed then refuse "e/r/w commands disabled in sandbox mode"
    f (← fileName)
  match c with
  | '#' =>
    if s.first.isSome then refuse "comments don't accept any addresses"
    let comment ← nextWhile (· != '\n')
    let d ← get
    if comment.head? = some 'n' && d.isFirst && d.taken = comment.length + 1 then set { d with quiet := true }
  | 'v' =>
    let name ← label
    let isKnown := name.isEmpty || (version? name).any (atMostVersion · [4, 9])
    if !isKnown then refuse "expected newer version of sed"
  | '\x7b' =>
    modify fun d => { d with blocks := (d.commands.size, d.origin, d.lines + 1) :: d.blocks }
    addCommand s (.block 0)
  | '\x7d' => closeBlock s
  | 'a' => do
    addCommand s (.append [])
    textOfCommand dialect
  | 'i' => do
    addCommand s (.insert [])
    textOfCommand dialect
  | 'c' => do
    addCommand s (.change [])
    textOfCommand dialect
  | ':' =>
    if s.first.isSome then refuse ": doesn't want any addresses"
    let name ← label
    if name.isEmpty then refuse "\":\" lacks a label"
    modify fun d => { d with labels := (name, d.commands.size) :: d.labels }
  | 'b' => branch s .always
  | 't' => branch s .ifReplaced
  | 'T' => branch s .unlessReplaced
  | 'q' =>
    if s.last.isSome then refuse oneAddress
    addCommand s (.quit ((← argument).getD 0))
  | 'Q' =>
    if s.last.isSome then refuse oneAddress
    addCommand s (.leave ((← argument).getD 0))
  | 'l' => addCommand s (.list (← argument))
  | 'L' => do
    let _ ← argument
    addCommand s (.broken c)
  | 'r' => files fun name => addCommand s (.readFile name)
  | 'R' => files fun name => addCommand s (.readLine name)
  | 'w' => files fun name => do addCommand s (.write (← channel name))
  | 'W' => files fun name => do addCommand s (.writeLine (← channel name))
  | 's' => do addCommand s (← substitution dialect)
  | 'y' => do addCommand s (← transformation)
  | c => unknownCommand c
where
  oneAddress : String := "command only uses one address"

def commands (dialect : Dialect) : Nat → Reading Unit
  | 0 => pure ()
  | fuel + 1 => do
    let _ ← nextWhile fun c => isSpace c || c == ';'
    match ← next with
    | none => pure ()
    | c =>
      let (s, c) ← selection dialect c
      match c with
      | none => refuse "missing command"
      | some c =>
        command dialect s c
        commands dialect fuel

def script (dialect : Dialect) (origin : Origin) (t : Octets) : Reading Unit := do
  modify fun d => { d with rest := t, taken := 0, lines := 0, origin }
  match (← get).pending with
  | some front => commandText front
  | none => pure ()
  commands dialect (t.length + 1)
  modify fun d => { d with isFirst := false }

def finish : Reading Unit := do
  let d ← get
  match d.blocks with
  | (_, origin, line) :: _ => refuseAt origin line 0 "unmatched \x60\x7b'".toList
  | [] => pure ()
  d.jumps.forM fun j => do
    let target ← match d.labels.find? (·.1 == j.label) with
      | some (_, target) => pure target
      | none =>
        if j.label.isEmpty then pure d.commands.size
        else panic ("can't find label for jump to \x60".toList ++ j.label ++ ['\''])
    modify fun d => { d with
      commands := d.commands.modify j.command fun c =>
        { c with action := match c.action with
            | .branch test _ => .branch test target
            | a => a } }

end Reading

end ComponentFormat.Editor
