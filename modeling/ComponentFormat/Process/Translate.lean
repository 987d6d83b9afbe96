import ComponentFormat.Number
import ComponentFormat.Process.Run
import ComponentFormat.Process.Switches

/-! # Translating, squeezing and deleting characters

Two arrays of bytes are written as rows of characters, ranges, classes and repetitions. Bytes of the first become
those at their places in the second, or go away; repeated bytes are squeezed into one.
-/
namespace ComponentFormat.Translate

/-- A character of an array's text, and whether it stood behind a backslash. -/
structure Mark where
  char : Char
  escaped : Bool
  deriving DecidableEq, Repr

inductive ArrayError where
  | noClassName
  | noEquivalent
  | unknownClass (name : Octets)
  | longEquivalent (name : Octets)
  | badCount (count : Octets)
  | reversedRange (first last : Char)
  deriving DecidableEq, Repr

def shownEnd (c : Char) : Octets :=
  if Octets.isControl c ∨ 0x80 ≤ c.toNat then '\\' :: Octets.octal c else [c]

def shownChar (c : Char) : Octets :=
  if c = '\\' then ['\\', '\\']
  else match Octets.controlLetters.find? (·.1 == c) with
    | some p => ['\\', p.2]
    | none => shownEnd c

def ArrayError.message : ArrayError → Octets
  | noClassName => "missing character class name '[::]'".toList
  | noEquivalent => "missing equivalence class character '[==]'".toList
  | unknownClass name => "invalid character class ".toList ++ Octets.quote (name.flatMap shownChar)
  | longEquivalent name =>
    name.flatMap shownChar ++ ": equivalence class operand must be a single character".toList
  | badCount count =>
    "invalid repeat count ".toList ++ Octets.quote (count.flatMap shownChar) ++ " in [c*n] construct".toList
  | reversedRange first last =>
    "range-endpoints of '".toList ++ shownEnd first ++ ['-'] ++ shownEnd last ++
      "' are in reverse collating sequence order".toList

/-! ## Reading an array -/

def isOctal (c : Char) : Bool := '0' ≤ c && c ≤ '7'

def digit (c : Char) : Nat := c.toNat - '0'.toNat

/-- The byte of up to three octal digits, and how many they are; a third digit must not lead beyond a byte. -/
def octal (t : Octets) : Nat × Nat :=
  match (t.take 3).takeWhile isOctal with
  | [] => (0, 0)
  | [a] => (digit a, 1)
  | [a, b] => (digit a * 8 + digit b, 2)
  | a :: b :: c :: _ =>
    let n := (digit a * 8 + digit b) * 8 + digit c
    if n < 256 then (n, 3) else (digit a * 8 + digit b, 2)

/-- The characters of a text in which a backslash stands for itself only at the end. -/
def marks : Nat → Octets → List Mark
  | 0, _ | _ + 1, [] => []
  | fuel + 1, '\\' :: c :: t =>
    if isOctal c then
      let (n, size) := octal (c :: t)
      ⟨Char.ofNat n, true⟩ :: marks fuel ((c :: t).drop size)
    else
      let meant := ((Octets.controlLetters.find? (·.2 == c)).map Prod.fst).getD c
      ⟨meant, true⟩ :: marks fuel t
  | fuel + 1, c :: t => ⟨c, false⟩ :: marks fuel t

/-- The doubtful octal escapes of a text are reported, and so is a backslash at its end. -/
def warnings : Nat → Octets → List Octets
  | 0, _ | _ + 1, [] => []
  | _ + 1, ['\\'] => ["warning: an unescaped backslash at end of string is not portable".toList]
  | fuel + 1, '\\' :: c :: t =>
    if isOctal c then
      let (_, size) := octal (c :: t)
      let digits := ((c :: t).take 3).takeWhile isOctal
      let here : List Octets :=
        match if size < digits.length then digits else [] with
        | [a, b, d] =>
          ["warning: the ambiguous octal escape \\".toList ++ [a, b, d] ++
            " is being\n\tinterpreted as the 2-byte sequence \\0".toList ++ [a, b] ++ ", ".toList ++ [d]]
        | _ => []
      here ++ warnings fuel ((c :: t).drop size)
    else warnings fuel t
  | fuel + 1, _ :: t => warnings fuel t

inductive CaseClass where
  | lower
  | upper
  deriving DecidableEq, Repr

/-- A part of an array. A repetition without a count fills up. -/
inductive Part where
  | char (c : Char)
  | range (first last : Char)
  | members (case? : Option CaseClass) (chars : Octets)
  | equivalent (c : Char)
  | repeated (c : Char) (count : Nat)
  deriving DecidableEq, Repr

def bytesWhere (p : Char → Bool) : Octets :=
  ((List.range 256).map Char.ofNat).filter p

def isLower (c : Char) : Bool := 'a' ≤ c && c ≤ 'z'

def isUpper (c : Char) : Bool := 'A' ≤ c && c ≤ 'Z'

def isGraphic (c : Char) : Bool := '!' ≤ c && c ≤ '~'

def isAlphanumeric (c : Char) : Bool := isAsciiLetter c || isAsciiDigit c

def isSpace (c : Char) : Bool := c == ' ' || (9 ≤ c.toNat && c.toNat ≤ 13)

def classes : List (String × (Char → Bool)) :=
  [("alnum", isAlphanumeric), ("alpha", isAsciiLetter), ("blank", fun c => c == ' ' || c == '\t'),
    ("cntrl", Octets.isControl), ("digit", isAsciiDigit), ("graph", isGraphic), ("lower", isLower),
    ("print", fun c => c == ' ' || isGraphic c), ("punct", fun c => isGraphic c && !isAlphanumeric c),
    ("space", isSpace), ("upper", isUpper),
    ("xdigit", fun c => isAsciiDigit c || ('a' ≤ c && c ≤ 'f') || ('A' ≤ c && c ≤ 'F'))]

def class? (name : Octets) : Option Part :=
  (classes.find? (·.1.toList == name)).map fun k =>
    .members (if k.1 = "lower" then some .lower else if k.1 = "upper" then some .upper else none) (bytesWhere k.2)

def Mark.is (m : Mark) (c : Char) : Bool := !m.escaped && m.char == c

/-- The characters up to the delimiter and the bracket that close a class, and what follows. -/
def delimited? (delimiter : Char) : List Mark → Option (Octets × List Mark)
  | m :: n :: ms =>
    if m.is delimiter && n.is ']' then some ([], ms)
    else (delimited? delimiter (n :: ms)).map fun p => (m.char :: p.1, p.2)
  | _ => none

/-- A repetition without its opening bracket. -/
def repetition? : List Mark → Except ArrayError (Option (Part × List Mark))
  | c :: star :: ms =>
    if !star.is '*' then .ok none
    else
      let count := (ms.takeWhile fun m => !m.escaped && m.char != ']').map Mark.char
      match ms.drop count.length with
      | close :: rest =>
        if !close.is ']' then .ok none
        else if count.isEmpty then .ok (some (.repeated c.char 0, rest))
        else match Number.natural? (if count.head? = some '0' then 8 else 10) count with
          | some n => if n < twoTo 64 then .ok (some (.repeated c.char n, rest)) else .error (.badCount count)
          | none => .error (.badCount count)
      | [] => .ok none
  | _ => .ok none

/-- A row that could be the count of a repetition, and a bracket. -/
def closesRepetition : List Mark → Bool
  | star :: ms => star.is '*' && (ms.dropWhile fun m => isAsciiDigit m.char).head?.any (·.is ']')
  | [] => false

/-- What a bracket opens, `ms` standing behind it. -/
def bracketed? (ms : List Mark) : Except ArrayError (Option (Part × List Mark)) :=
  match ms with
  | d :: rest =>
    if d.is ':' || d.is '=' then
      match delimited? d.char rest with
      | some ([], _) => .error (if d.char = ':' then .noClassName else .noEquivalent)
      | some (name, after) =>
        let part? := if d.char = ':' then class? name else match name with
          | [c] => some (.equivalent c)
          | _ => none
        match part? with
        | some part => .ok (some (part, after))
        | none =>
          if closesRepetition rest then repetition? ms
          else .error (if d.char = ':' then .unknownClass name else .longEquivalent name)
      | none => repetition? ms
    else repetition? ms
  | [] => .ok none

def parts : Nat → List Mark → Except ArrayError (List Part)
  | 0, _ | _ + 1, [] => .ok []
  | fuel + 1, m :: ms => do
    match ← if m.is '[' && 2 ≤ ms.length then bracketed? ms else pure none with
    | some (part, rest) => return part :: (← parts fuel rest)
    | none =>
      match ms with
      | hyphen :: last :: rest =>
        if hyphen.is '-' then
          if last.char < m.char then throw (.reversedRange m.char last.char)
          else return .range m.char last.char :: (← parts fuel rest)
        else return .char m.char :: (← parts fuel ms)
      | _ => return .char m.char :: (← parts fuel ms)

def ofText (t : Octets) : Except ArrayError (List Part) :=
  let ms := marks t.length t
  parts ms.length ms

/-! ## Arrays against each other -/

/-- A place of an array: a byte, the case class that it comes from, and whether a new part starts with it. -/
structure Cell where
  char : Char
  case? : Option CaseClass
  first : Bool
  deriving DecidableEq, Repr

def cellsOf (case? : Option CaseClass) : Octets → List Cell
  | [] => []
  | c :: t => ⟨c, case?, true⟩ :: t.map (⟨·, case?, false⟩)

/-- More repetitions than this make no difference. -/
def maxCount : Nat := 4096

/-- The places of a part, `fill` being the count of a repetition without one. -/
def Part.cells (fill : Nat) : Part → List Cell
  | char c | equivalent c => cellsOf none [c]
  | range first last =>
    cellsOf none ((List.range (last.toNat + 1 - first.toNat)).map fun n => Char.ofNat (first.toNat + n))
  | members case? chars => cellsOf case? chars
  | repeated c count => cellsOf none (List.replicate (min (if count = 0 then fill else count) maxCount) c)

def cells (fill : Nat) (ps : List Part) : List Cell := ps.flatMap (Part.cells fill)

def isFilling : Part → Bool
  | .repeated _ 0 => true
  | _ => false

def hasEquivalent (ps : List Part) : Bool :=
  ps.any fun p => match p with
    | .equivalent _ => true
    | _ => false

def isClass : Part → Bool
  | .members .. => true
  | _ => false

def isPlainClass : Part → Bool
  | .members none _ => true
  | _ => false

def skipPart (cs : List Cell) : List Cell := cs.tail.dropWhile (!·.first)

/-- Whether the case classes of the second array each start where one of the first starts, and how many places
less both arrays have when such a pair counts as one. -/
def aligned : Nat → (firstNew secondNew : Bool) → List Cell → List Cell → Option (Nat × Nat)
  | 0, _, _, _, _ => some (0, 0)
  | fuel + 1, firstNew, secondNew, as, bs =>
    match as, bs with
    | a :: as', b :: bs' =>
      if secondNew && b.case?.isSome && !(firstNew && a.case?.isSome) then none
      else if b.case?.isSome then
        (aligned fuel true true (skipPart as) (skipPart bs)).map fun p => (p.1 + 25, p.2 + 25)
      else aligned fuel (as'.head?.all (·.first)) (bs'.head?.all (·.first)) as' bs'
    | [], b :: _ => if secondNew && b.case?.isSome then none else some (0, 0)
    | _, [] => some (0, 0)

inductive Misuse where
  | fillingFirst
  | fillingTwice
  | equivalentSecond
  | plainClassSecond
  | misaligned
  | emptySecond
  | classAtEnd
  | complementedClass
  | fillingSecond
  deriving DecidableEq, Repr

def Misuse.message : Misuse → String
  | fillingFirst => "the [c*] repeat construct may not appear in string1"
  | fillingTwice => "only one [c*] repeat construct may appear in string2"
  | equivalentSecond => "[=c=] expressions may not appear in string2 when translating"
  | plainClassSecond =>
    "when translating, the only character classes that may appear in\nstring2 are 'upper' and 'lower'"
  | misaligned => "misaligned [:upper:] and/or [:lower:] construct"
  | emptySecond => "when not truncating set1, string2 must be non-empty"
  | classAtEnd =>
    "when translating with string1 longer than string2,\nthe latter string must not end with a character class"
  | complementedClass =>
    "when translating with complemented character classes,\nstring2 must map all characters in the domain to one"
  | fillingSecond => "the [c*] construct may appear in string2 only when translating"

structure Manner where
  complement : Bool
  delete : Bool
  squeeze : Bool
  truncate : Bool

def complementOf (cs : List Cell) : Octets :=
  bytesWhere fun c => !cs.any (·.char == c)

/-- The places of both arrays, the second one filled up and extended to the length of the first. -/
def paired (m : Manner) (ps qs : List Part) : Except Misuse (List Cell × List Cell) := do
  let as := cells 0 ps
  let length := if m.complement then (complementOf as).length else as.length
  let bare := (cells 0 qs).length
  let bs := cells (length - bare) qs
  if (qs.filter isFilling).length > 1 then throw .fillingTwice
  if hasEquivalent qs then throw .equivalentSecond
  if qs.any isPlainClass then throw .plainClassSecond
  let shortened ←
    if m.complement || !qs.any isClass then pure (0, 0)
    else match aligned (as.length + bs.length + 1) true true as bs with
      | some p => pure p
      | none => throw .misaligned
  let longer := length - shortened.1 > bs.length - shortened.2
  if longer && !m.truncate && bs.isEmpty then throw .emptySecond
  if longer && !m.truncate && qs.getLast?.any isClass then throw .classAtEnd
  let extension :=
    if longer && !m.truncate then
      (bs.getLast?.map fun b => cellsOf none (List.replicate (length - bs.length) b.char)).getD []
    else []
  let bs := bs ++ extension
  if m.complement && ps.any isClass && !(bs.length = length && bs.all fun b => b.char == (bs.headD b).char) then
    throw .complementedClass
  return (as, bs)

/-- The new byte for each byte that gets one; a later pair wins over an earlier one. -/
def table : Nat → List Cell → List Cell → List (Char × Char)
  | fuel + 1, a :: as, b :: bs =>
    let pairs :=
      match a.case?, b.case? with
      | some .lower, some .upper => (bytesWhere isLower).map fun c => (c, c.toUpper)
      | some .upper, some .lower => (bytesWhere isUpper).map fun c => (c, c.toLower)
      | _, _ => [(a.char, b.char)]
    let rest := if b.case?.isSome then table fuel (skipPart (a :: as)) (skipPart (b :: bs)) else table fuel as bs
    rest ++ pairs
  | _, _, _ => []

def tableOf (m : Manner) (as bs : List Cell) : List (Char × Char) :=
  if m.complement then (complementOf as).zip (bs.map Cell.char)
  else table (as.length + bs.length) as bs

def translate (pairs : List (Char × Char)) (o : Octets) : Octets :=
  o.map fun c => ((pairs.find? (·.1 == c)).map Prod.snd).getD c

/-- Runs of a byte of the set become one of it. -/
def squeeze (set : Octets) (last : Option Char) : Octets → Octets
  | [] => []
  | c :: t =>
    if last = some c && set.any (· == c) then squeeze set last t else c :: squeeze set (some c) t

def setOf (m : Manner) (ps : List Part) : Octets :=
  let cs := cells 0 ps
  if m.complement then complementOf cs else cs.map Cell.char

def apply (m : Manner) (ps : List Part) (qs? : Option (List Part)) (o : Octets) : Except Misuse Octets := do
  if ps.any isFilling then throw .fillingFirst
  match qs? with
  | none =>
    let set := setOf m ps
    return if m.delete then o.filter fun c => !set.any (· == c) else squeeze set none o
  | some qs =>
    if m.delete then
      if (qs.filter isFilling).length > 1 then throw .fillingTwice
      if qs.any isFilling then throw .fillingSecond
      let set := setOf m ps
      return squeeze ((cells 0 qs).map Cell.char) none (o.filter fun c => !set.any (· == c))
    else
      let (as, bs) ← paired m ps qs
      let done := translate (tableOf m as bs) o
      return if m.squeeze then squeeze (bs.map Cell.char) none done else done

/-! ## The program -/

def switches : List Switch :=
  [⟨'A', true, [], .nothing⟩, ⟨'c', true, ["complement"], .nothing⟩, ⟨'C', true, [], .nothing⟩,
    ⟨'d', true, ["delete"], .nothing⟩, ⟨'s', true, ["squeeze-repeats"], .nothing⟩,
    ⟨'t', true, ["truncate-set1"], .nothing⟩, ⟨'h', false, ["help"], .nothing⟩, ⟨'V', false, ["version"], .nothing⟩]

def miscount? (m : Manner) (arrays : List Octets) : Option Octets :=
  let least := if m.delete == m.squeeze then 2 else 1
  let most := if m.delete && !m.squeeze then 1 else 2
  if arrays.isEmpty then some "missing operand".toList
  else if arrays.length < least then
    some ("missing operand after ".toList ++ Octets.quote (arrays.getLastD []) ++
      (if m.squeeze then "\nTwo strings must be given when both deleting and squeezing repeats."
        else "\nTwo strings must be given when translating.").toList)
  else if most < arrays.length then
    some ("extra operand ".toList ++ Octets.quote ((arrays[most]?).getD []) ++
      (if arrays.length = 2 then
        "\nOnly one string may be given when deleting without squeezing repeats.".toList else []))
  else none

def run : Program := fun args s =>
  match Switches.read switches false args with
  | .error e => .misused e.message s
  | .ok found =>
    let m : Manner := ⟨found.has 'c' || found.has 'C', found.has 'd', found.has 's', found.has 't'⟩
    let arrays := found.others
    let refuse (text : Octets) : Run := .fails 1 text s
    if found.has 'h' || found.has 'V' then .ends 0 s
    else match miscount? m arrays with
    | some text => .misused text s
    | none =>
      let sound := (arrays.takeWhile fun a => (ofText a).toOption.isSome).length
      let warned := ((arrays.take (sound + 1)).flatMap fun a => warnings a.length a).map fun w =>
        Run.report s w
      let run : Run :=
        match arrays.mapM ofText with
        | .error e => refuse e.message
        | .ok parts =>
          match s.fault with
          | some e => refuse ("read error: ".toList ++ e.text.toList)
          | none =>
          match apply m (parts.headD []) (parts[1]?) s.input with
          | .ok o => .writes o s
          | .error e => refuse e.message.toList
      { run with written := warned ++ run.written }

example : (apply ⟨false, false, false, false⟩ [.range 'a' 'c'] (some [.char 'x', .char 'y'])
    "abcabc".toList).toOption = some "xyyxyy".toList := by decide +kernel

end ComponentFormat.Translate
