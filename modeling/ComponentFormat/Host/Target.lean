import ComponentFormat.Process.Bytes
import ComponentFormat.Number

/-! # Where a request goes

The target of a request is a path with perhaps a query behind it, or a whole address. Names of single and double
dots are resolved in the path as it is written; percent escapes are decoded afterwards.
-/
namespace ComponentFormat.Host

structure Target where
  path : Text
  /-- Names and values in order. -/
  query : List (Text × Text)
  deriving DecidableEq, Repr

namespace Target

def isSlash (c : Char) : Bool := c == '/'

/-- Without the scheme and the host of a whole address; a path always starts with a slash. -/
def pathOfAddress (t : Text) : Text :=
  let scheme := t.takeWhile fun c => isAsciiLetter c || isAsciiDigit c || c == '+' || c == '-' || c == '.'
  match Text.after? "://".toList (t.drop scheme.length) with
  | some rest => if (t.head?.any isAsciiLetter) then rest.dropWhile (!isSlash ·) else relative t
  | none => relative t
where
  relative (t : Text) : Text :=
    let t := match Text.after? ['/', '/'] t with
      | some rest => rest.dropWhile (!isSlash ·)
      | none => t
    '/' :: t.dropWhile isSlash

/-- The names that are left when single dots drop out and double dots take the name before them away; the empty
name in front of the first slash stays. `passed` is in reverse. -/
def resolveDots (passed : List Text) : List Text → List Text
  | [] => passed.reverse
  | name :: names =>
    if name = ['.'] then resolveDots passed names
    else if name = ['.', '.'] then resolveDots (if passed = [[]] then passed else passed.tail) names
    else resolveDots (name :: passed) names

def hexPair? : Text → Option (UInt8 × Text)
  | a :: b :: t => (Number.natural? 16 [a, b]).map fun n => (n.toUInt8, t)
  | _ => none

def escapedBytes : Nat → Text → Bytes
  | 0, _ => []
  | _ + 1, [] => []
  | fuel + 1, c :: t =>
    match if c = '%' then hexPair? t else none with
    | some (b, rest) => b :: escapedBytes fuel rest
    | none => Bytes.ofText [c] ++ escapedBytes fuel t

def decode (t : Text) : Text :=
  Bytes.toText (escapedBytes (t.length + 1) t)

/-- A name and its value, the value being empty when there is none. -/
def readPair (t : Text) : Text × Text :=
  let plain (t : Text) : Text := decode (t.map fun c => if c = '+' then ' ' else c)
  (plain (t.takeWhile (· != '=')), plain ((t.dropWhile (· != '=')).drop 1))

def readQuery (t : Text) : List (Text × Text) :=
  ((Text.splitAt (· == '&') t).filter (!·.isEmpty)).map readPair

/-- The target that a text names. What stands behind a number sign is of no account. -/
def ofText (t : Text) : Target :=
  let t := t.takeWhile (· != '#')
  let names := resolveDots [] (Text.splitAt isSlash (pathOfAddress (t.takeWhile (· != '?'))))
  ⟨decode (decode (Text.join ['/'] names)), readQuery ((t.dropWhile (· != '?')).drop 1)⟩

example : (ofText "/api/../health?x=1".toList).path = "/health".toList := by decide +kernel
example : (ofText "health".toList).path = "/health".toList := by decide +kernel
example : (ofText "/a%20b/./c".toList).path = "/a b/c".toList := by decide +kernel

end Target

end ComponentFormat.Host
