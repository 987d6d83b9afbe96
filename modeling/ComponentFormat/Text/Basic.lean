/-! # Texts as lists of characters

Blanks, trimming, and the first place where one text stands in another. The searches return the pieces
around the place, so that positions are measured from lengths and never passed along.
-/
namespace ComponentFormat

/-- A text is the list of its characters; a position in it counts characters. -/
abbrev Text := List Char

/-- White space: the ASCII controls from tab to carriage return, the four separators U+001C to U+001F, and
the spaces and line separators of the whole character set. -/
def isBlank (c : Char) : Bool :=
  let code := c.toNat
  (0x09 ≤ code && code ≤ 0x0D) || (0x1C ≤ code && code ≤ 0x20) || code == 0x85 || code == 0xA0 ||
    code == 0x1680 || (0x2000 ≤ code && code ≤ 0x200A) || code == 0x2028 || code == 0x2029 ||
    code == 0x202F || code == 0x205F || code == 0x3000

def isAsciiLetter (c : Char) : Bool :=
  ('a' ≤ c && c ≤ 'z') || ('A' ≤ c && c ≤ 'Z')

def isAsciiDigit (c : Char) : Bool :=
  '0' ≤ c && c ≤ '9'

namespace Text

/-- Drop the longest run of characters in `p` at the end. -/
def trimEnd (p : Char → Bool) (t : Text) : Text :=
  (t.reverse.dropWhile p).reverse

def strip (t : Text) : Text :=
  trimEnd isBlank (t.dropWhile isBlank)

def isAllBlank (t : Text) : Bool :=
  t.all isBlank

/-- What follows `needle` at the front of the text. -/
def after? : Text → Text → Option Text
  | [], t => some t
  | _ :: _, [] => none
  | n :: needle, c :: t => if n = c then after? needle t else none

/-- The pieces before and after the first place where `needle` stands. -/
def cut? (needle : Text) : Text → Option (Text × Text)
  | [] => (after? needle []).map fun rest => ([], rest)
  | c :: t =>
    match after? needle (c :: t) with
    | some rest => some ([], rest)
    | none => (cut? needle t).map fun pieces => (c :: pieces.1, pieces.2)

/-- The part of `t` before its ending `rest`. -/
def upTo (t rest : Text) : Text :=
  t.take (t.length - rest.length)

def contains (needle t : Text) : Bool :=
  (cut? needle t).isSome

/-- The pieces between the places where `sep` holds: one more than there are such places. -/
def splitAt (sep : Char → Bool) : Text → List Text
  | [] => [[]]
  | c :: t =>
    if sep c then [] :: splitAt sep t
    else match splitAt sep t with
      | [] => [[c]]
      | piece :: more => (c :: piece) :: more

def join (sep : Text) : List Text → Text
  | [] => []
  | [piece] => piece
  | piece :: more => piece ++ sep ++ join sep more

/-- Every occurrence of `old` from left to right becomes `new`; an empty `old` stands before every character
and at the end. -/
def replaceAll (old new t : Text) : Text :=
  if old.isEmpty then new ++ t.flatMap (· :: new) else go 0 t
where
  /-- The replacement after passing over `used` characters of the last occurrence. -/
  go : Nat → Text → Text
    | _, [] => []
    | used + 1, _ :: t => go used t
    | 0, c :: t => if (after? old (c :: t)).isSome then new ++ go (old.length - 1) t else c :: go 0 t

/-- The characters from `start` up to `stop`; a negative position counts from the end, positions outside the
text are moved to its nearer end. -/
def slice (t : Text) (start stop : Int) : Text :=
  let i := clamp start
  (t.drop i).take (clamp stop - i)
where
  clamp (position : Int) : Nat :=
    if position < 0 then (t.length + position).toNat else min position.toNat t.length

theorem after?_eq_some_iff {needle t rest : Text} :
    after? needle t = some rest ↔ t = needle ++ rest := by
  induction needle generalizing t with
  | nil => simp [after?, eq_comm]
  | cons n needle ih =>
    cases t with
    | nil => simp [after?]
    | cons c t => by_cases h : n = c <;> simp [after?, h, ih, eq_comm]

theorem upTo_append {t rest : Text} (h : rest <:+ t) : upTo t rest ++ rest = t := by
  obtain ⟨front, rfl⟩ := h
  simp [upTo]

theorem append_of_cut?_eq_some {needle t before rest : Text} (h : cut? needle t = some (before, rest)) :
    t = before ++ needle ++ rest := by
  induction t generalizing before with
  | nil =>
    simp only [cut?, Option.map_eq_some_iff, Prod.mk.injEq] at h
    obtain ⟨u, hu, rfl, rfl⟩ := h
    simpa using after?_eq_some_iff.1 hu
  | cons c t ih =>
    simp only [cut?] at h
    split at h
    · next u hu =>
      cases h
      simpa using after?_eq_some_iff.1 hu
    · obtain ⟨⟨p, q⟩, hp, hq⟩ := Option.map_eq_some_iff.1 h
      cases hq
      simp [ih hp]

end Text

end ComponentFormat
