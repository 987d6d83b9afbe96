import ComponentFormat.Yaml.Scalars

/-! # The tokens of a YAML text

Indentation becomes explicit: a block collection has a start and an end token. A scalar or a flow collection may
turn out to be a key when a colon follows it on its line, so the place in front of it is remembered and the key
token put there afterwards.
-/
namespace ComponentFormat.Yaml

inductive Token where
  | versionDirective (major : Nat)
  | tagDirective (handle lead : Text)
  | otherDirective
  | documentStart
  | documentEnd
  | blockSequenceStart
  | blockMappingStart
  | blockEnd
  | flowSequenceStart
  | flowSequenceEnd
  | flowMappingStart
  | flowMappingEnd
  | blockEntry
  | flowEntry
  | key
  | value
  | aliasOf (name : Text)
  | anchor (name : Text)
  | tag (handle : Option Text) (suffix : Text)
  | scalar (plain : Bool) (text : Text)
  /-- The text cannot be read on from here. -/
  | fault (f : Fault)
  deriving DecidableEq, Repr

/-- A place where a key may have started. -/
structure PossibleKey where
  /-- The number of tokens in front of it. -/
  position : Nat
  /-- Anything else than a key would be an error. -/
  required : Bool
  index : Nat
  line : Nat
  column : Nat

structure Reader where
  cursor : Cursor
  /-- The last token first. -/
  tokens : List Token
  count : Nat
  flowLevel : Nat
  /-- The column of the innermost block collection; -1 outside of all. -/
  indent : Int
  outerIndents : List Int
  keyAllowed : Bool
  /-- At most one for each flow level. -/
  keys : List (Nat × PossibleKey)

namespace Reader

def ofText (t : Text) : Reader :=
  let c := Cursor.ofText t
  { cursor := if t.head?.any isByteOrderMark then c.step else c
    tokens := [], count := 0, flowLevel := 0, indent := -1, outerIndents := [], keyAllowed := true, keys := [] }

def inFlow (r : Reader) : Bool := r.flowLevel != 0

def emit (t : Token) (r : Reader) : Reader :=
  { r with tokens := t :: r.tokens, count := r.count + 1 }

def insertAt (position : Nat) (t : Token) (r : Reader) : Reader :=
  let behind := r.count - position
  { r with tokens := r.tokens.take behind ++ t :: r.tokens.drop behind, count := r.count + 1 }

def moveTo (c : Cursor) (r : Reader) : Reader := { r with cursor := c }

def allowKey (b : Bool) (r : Reader) : Reader := { r with keyAllowed := b }

/-- Close the block collections deeper than the column. -/
def unwind (column : Int) (r : Reader) : Reader :=
  if r.inFlow then r else go r.outerIndents r
where
  go : List Int → Reader → Reader
    | [], r => r
    | outer :: more, r =>
      if column < r.indent then go more { r.emit .blockEnd with indent := outer, outerIndents := more }
      else r

/-- Open a block collection at the column, unless one is open there. -/
def openBlock (column : Int) (start : Reader → Reader) (r : Reader) : Reader :=
  if r.indent < column then
    start { r with indent := column, outerIndents := r.indent :: r.outerIndents }
  else r

def dropKey (r : Reader) : Except Fault Reader :=
  match r.keys.find? (·.1 == r.flowLevel) with
  | none => .ok r
  | some (_, k) =>
    if k.required then .error .malformed
    else .ok { r with keys := r.keys.filter (·.1 != r.flowLevel) }

/-- A key must stand on one line and within 1024 characters. -/
def isStale (r : Reader) (k : PossibleKey) : Bool :=
  k.line != r.cursor.line || 1024 < r.cursor.index - k.index

def dropStaleKeys (r : Reader) : Except Fault Reader :=
  if r.keys.any fun p => r.isStale p.2 && p.2.required then .error .malformed
  else .ok { r with keys := r.keys.filter fun p => !r.isStale p.2 }

/-- The tokens in front of which no key token can come any more. -/
def settled (r : Reader) : List Token :=
  let pending := (r.keys.filter fun p => !r.isStale p.2).map (·.2.position)
  r.tokens.reverse.take (pending.foldl min r.count)

def saveKey (r : Reader) : Except Fault Reader :=
  if r.keyAllowed then do
    let required := !r.inFlow && r.indent == (r.cursor.column : Int)
    let r ← r.dropKey
    let k : PossibleKey :=
      ⟨r.count, required, r.cursor.index, r.cursor.line, r.cursor.column⟩
    return { r with keys := (r.flowLevel, k) :: r.keys }
  else .ok r

/-- Pass blanks, comments and line ends. A new line outside of flow collections may start with a key. -/
def skipToToken : Nat → Reader → Reader
  | 0, r => r
  | fuel + 1, r =>
    let c := r.cursor.skipSpaces.skipComment
    match c.lineBreak? with
    | none => r.moveTo c
    | some (_, c) =>
      skipToToken fuel { r with cursor := c, keyAllowed := if r.inFlow then r.keyAllowed else true }

/-! ## Names, tags and directives -/

def isNameChar (c : Char) : Bool :=
  isAsciiLetter c || isAsciiDigit c || c == '-' || c == '_'

def readName (c : Cursor) : Except Fault (Text × Cursor) :=
  let name := c.rest.takeWhile isNameChar
  if name.isEmpty then .error .malformed else .ok (name, c.advance name.length)

def readAnchorName (c : Cursor) : Except Fault (Text × Cursor) := do
  let (name, c) ← readName c
  if isGap c.peek || ['?', ':', ',', ']', '\x7d', '%', '@', '\x60'].contains c.peek then
    return (name, c)
  else throw .malformed

/-- The handle of a tag: an exclamation mark, or a name between two of them. -/
def readHandle (c : Cursor) : Except Fault (Text × Cursor) :=
  if c.peek != '!' then .error .malformed
  else if c.peekAt 1 == ' ' then .ok (['!'], c.step)
  else
    let name := (c.rest.drop 1).takeWhile isNameChar
    if c.peekAt (name.length + 1) == '!' then .ok ('!' :: name ++ ['!'], c.advance (name.length + 2))
    else .error .malformed

def isUriChar (c : Char) : Bool :=
  isNameChar c || "-;/?:@&=+$,_.!~*'()[]".toList.contains c

def readEscapedBytes : Nat → Cursor → Except Fault (List UInt8 × Cursor)
  | 0, c => .ok ([], c)
  | fuel + 1, c =>
    if c.peek != '%' then .ok ([], c)
    else
      let ds := (c.rest.drop 1).take 2
      match Number.natural? 16 ds with
      | some n =>
        if ds.length < 2 then .error .malformed
        else (readEscapedBytes fuel (c.advance 3)).map fun p => (n.toUInt8 :: p.1, p.2)
      | none => .error .malformed

def readUriParts : Nat → Cursor → Except Fault (Text × Cursor)
  | 0, c => .ok ([], c)
  | fuel + 1, c =>
    if c.peek == '%' then do
      let (bytes, c) ← readEscapedBytes (c.rest.length + 1) c
      match String.fromUTF8? (ByteArray.mk bytes.toArray) with
      | none => throw .malformed
      | some s =>
        let (more, c) ← readUriParts fuel c
        return (s.toList ++ more, c)
    else if isUriChar c.peek then (readUriParts fuel c.step).map fun p => (c.peek :: p.1, p.2)
    else .ok ([], c)

def readUri (c : Cursor) : Except Fault (Text × Cursor) := do
  let (uri, after) ← readUriParts (c.rest.length + 1) c
  if after.index = c.index then throw .malformed
  return (uri, after)

def readTag (c : Cursor) : Except Fault (Token × Cursor) := do
  let (handle, suffix, c) ←
    if c.peekAt 1 == '<' then do
      let (uri, c) ← readUri (c.advance 2)
      if c.peek != '>' then throw .malformed
      pure (none, uri, c.step)
    else if isGap (c.peekAt 1) then pure (none, ['!'], c.step)
    else do
      let word := (c.rest.drop 1).takeWhile (!isSpaceOrStop ·)
      let (handle, c) ← if word.contains '!' then readHandle c else pure (['!'], c.step)
      let (uri, c) ← readUri c
      pure (some handle, uri, c)
  if isSpaceOrStop c.peek then return (.tag handle suffix, c) else throw .malformed

def readDigits (c : Cursor) : Except Fault (Nat × Cursor) :=
  let ds := c.rest.takeWhile isAsciiDigit
  match Number.natural? 10 ds with
  | some n =>
    if ds.length ≤ Number.maxDigits then .ok (n, c.advance ds.length)
    else .error (.unconvertible .outOfRange)
  | none => .error .malformed

def readDirective (c : Cursor) : Except Fault (Token × Cursor) := do
  let (name, c) ← readName c.step
  if !isSpaceOrStop c.peek then throw .malformed
  let (token, c) ←
    if name = "YAML".toList then do
      let (major, c) ← readDigits c.skipSpaces
      if c.peek != '.' then throw .malformed
      let (_, c) ← readDigits c.step
      if !isSpaceOrStop c.peek then throw .malformed
      pure (.versionDirective major, c)
    else if name = "TAG".toList then do
      let (handle, c) ← readHandle c.skipSpaces
      if c.peek != ' ' then throw .malformed
      let (uri, c) ← readUri c.skipSpaces
      if !isSpaceOrStop c.peek then throw .malformed
      pure (.tagDirective handle uri, c)
    else pure (Token.otherDirective, c.skipWhile (!isStop ·))
  return (token, ← c.restOfLine)

/-! ## One token after the other -/

def takeScalar (plain : Bool) (found : Text × Cursor) (r : Reader) : Reader :=
  (r.moveTo found.2).emit (.scalar plain found.1)

def takeMarker (t : Token) (r : Reader) : Except Fault Reader := do
  let r ← (r.unwind (-1)).dropKey
  return ((r.allowKey false).moveTo (r.cursor.advance 3)).emit t

def startFlow (t : Token) (r : Reader) : Except Fault Reader := do
  let r ← r.saveKey
  return ({ r with flowLevel := r.flowLevel + 1, keyAllowed := true, cursor := r.cursor.step }).emit t

/-- The flow level never falls below zero: a closing bracket without its opening one is refused later, for it
can stand nowhere in a text. -/
def endFlow (t : Token) (r : Reader) : Except Fault Reader := do
  let r ← r.dropKey
  return ({ r with flowLevel := r.flowLevel - 1, keyAllowed := false, cursor := r.cursor.step }).emit t

def takeFlowEntry (r : Reader) : Except Fault Reader := do
  let r ← (r.allowKey true).dropKey
  return (r.moveTo r.cursor.step).emit .flowEntry

def takeBlockEntry (r : Reader) : Except Fault Reader := do
  if !r.inFlow && !r.keyAllowed then throw .malformed
  let r := if r.inFlow then r else r.openBlock r.cursor.column (·.emit .blockSequenceStart)
  let r ← (r.allowKey true).dropKey
  return (r.moveTo r.cursor.step).emit .blockEntry

def takeKey (r : Reader) : Except Fault Reader := do
  if !r.inFlow && !r.keyAllowed then throw .malformed
  let r := if r.inFlow then r else r.openBlock r.cursor.column (·.emit .blockMappingStart)
  let r ← (r.allowKey (!r.inFlow)).dropKey
  return (r.moveTo r.cursor.step).emit .key

/-- A colon: what was remembered on this flow level is a key now. -/
def takeValue (r : Reader) : Except Fault Reader := do
  let r ←
    match r.keys.find? (·.1 == r.flowLevel) with
    | some (_, k) => do
      let r := { r with keys := r.keys.filter (·.1 != r.flowLevel) }
      let r := r.insertAt k.position .key
      let r := if r.inFlow then r
        else r.openBlock k.column (·.insertAt k.position .blockMappingStart)
      pure (r.allowKey false)
    | none => do
      if !r.inFlow && !r.keyAllowed then throw .malformed
      let r := if r.inFlow then r else r.openBlock r.cursor.column (·.emit .blockMappingStart)
      (r.allowKey (!r.inFlow)).dropKey
  return (r.moveTo r.cursor.step).emit .value

def takeAnchor (r : Reader) : Except Fault Reader := do
  let isAlias := r.cursor.peek == '*'
  let r ← r.saveKey
  let (name, c) ← readAnchorName r.cursor.step
  return ((r.allowKey false).moveTo c).emit (if isAlias then .aliasOf name else .anchor name)

def takeTag (r : Reader) : Except Fault Reader := do
  let r ← r.saveKey
  let (t, c) ← readTag r.cursor
  return ((r.allowKey false).moveTo c).emit t

def takeBlockScalar (fold : Bool) (r : Reader) : Except Fault Reader := do
  let r ← (r.allowKey true).dropKey
  return r.takeScalar false (← readBlock fold r.indent r.cursor.step)

def takeQuoted (double : Bool) (r : Reader) : Except Fault Reader := do
  let r ← r.saveKey
  return (r.allowKey false).takeScalar false
    (← readQuoted double (2 * r.cursor.rest.length + 2) r.cursor.step)

def takePlain (r : Reader) : Except Fault Reader := do
  let r ← r.saveKey
  let (text, ended, c) := readPlain r.inFlow (r.indent + 1) (r.cursor.rest.length + 1) r.cursor
  return (r.allowKey ended).takeScalar true (text, c)

def startsPlain (r : Reader) : Bool :=
  let d := r.cursor.peek
  !(isGap d || "-?:,[]\x7b\x7d#&*!|>'\"%@\x60".toList.contains d) ||
    (!isGap (r.cursor.peekAt 1) && (d == '-' || (!r.inFlow && (d == '?' || d == ':'))))

def takeDirective (r : Reader) : Except Fault Reader := do
  let r ← (r.unwind (-1)).dropKey
  let (t, c) ← readDirective r.cursor
  return ((r.allowKey false).moveTo c).emit t

/-- The token at the cursor, which stands at the start of one and not at the end of the text. -/
def take (r : Reader) : Except Fault Reader :=
  let c := r.cursor
  let d := c.peek
  let beforeGap := isGap (c.peekAt 1)
  if d == '%' && c.column == 0 then r.takeDirective
  else if c.column == 0 && c.atMarker ['-', '-', '-'] then r.takeMarker .documentStart
  else if c.column == 0 && c.atMarker ['.', '.', '.'] then r.takeMarker .documentEnd
  else if d == '[' then r.startFlow .flowSequenceStart
  else if d == '\x7b' then r.startFlow .flowMappingStart
  else if d == ']' then r.endFlow .flowSequenceEnd
  else if d == '\x7d' then r.endFlow .flowMappingEnd
  else if d == ',' then r.takeFlowEntry
  else if d == '-' && beforeGap then r.takeBlockEntry
  else if d == '?' && (r.inFlow || beforeGap) then r.takeKey
  else if d == ':' && (r.inFlow || beforeGap) then r.takeValue
  else if d == '*' || d == '&' then r.takeAnchor
  else if d == '!' then r.takeTag
  else if d == '|' && !r.inFlow then r.takeBlockScalar false
  else if d == '>' && !r.inFlow then r.takeBlockScalar true
  else if d == '\'' then r.takeQuoted false
  else if d == '"' then r.takeQuoted true
  else if r.startsPlain then r.takePlain
  else .error .malformed

/-- Pass to the next token and take it. At the end of the text, which is told, close what is open. -/
def next (r : Reader) : Except Fault (Reader × Bool) := do
  let r ← (r.skipToToken (r.cursor.rest.length + 1)).dropStaleKeys
  let r := r.unwind r.cursor.column
  if r.cursor.rest.isEmpty then return (← (r.unwind (-1)).dropKey, true)
  else return (← r.take, false)

/-- All tokens to the end of the text, or up to a fault. In front of a fault stand only the tokens that do not
depend on what follows them. -/
def run : Nat → Reader → List Token
  | 0, r => r.settled ++ [.fault .malformed]
  | fuel + 1, r =>
    match r.next with
    | .error f => r.settled ++ [.fault f]
    | .ok (r, true) => r.tokens.reverse
    | .ok (r, false) => run fuel r

end Reader

def tokens (t : Text) : List Token :=
  if t.all isPrintable then (Reader.ofText t).run (t.length + 1) else [.fault .malformed]

end ComponentFormat.Yaml
