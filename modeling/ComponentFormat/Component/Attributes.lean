import ComponentFormat.Keyed
import ComponentFormat.Text.Case

/-! # Attributes of a tag

An attribute is a name, alone or with a value between quotes or bare. One reader takes an attribute at the
front of a text; the attributes of a text are those met from left to right, whatever stands between them.
-/
namespace ComponentFormat

/-- A name alone has no value. -/
structure Attribute where
  name : Text
  value : Option Text
  deriving DecidableEq, Repr

namespace Attribute

def isNameChar (c : Char) : Bool :=
  !isBlank c && c != '"' && c != '\'' && c != '>' && c != '/' && c != '='

def isBareChar (c : Char) : Bool :=
  !isBlank c && c != '"' && c != '\'' && c != '=' && c != '<' && c != '>' && c != '\x60'

/-- The text up to the quote, and what follows the quote. -/
def readQuoted? (quote : Char) : Text → Option (Text × Text)
  | [] => none
  | c :: t => if c = quote then some ([], t) else (readQuoted? quote t).map fun p => (c :: p.1, p.2)

def readBare? (t : Text) : Option (Text × Text) :=
  match t.takeWhile isBareChar with
  | [] => none
  | value => some (value, t.dropWhile isBareChar)

/-- A value after an equals sign, with blanks on either side of the sign. -/
def readValue? (t : Text) : Option (Text × Text) :=
  match t.dropWhile isBlank with
  | '=' :: t =>
    match t.dropWhile isBlank with
    | '"' :: t => readQuoted? '"' t
    | '\'' :: t => readQuoted? '\'' t
    | t => readBare? t
  | _ => none

/-- The attribute at the front, and the text after it. A name with no readable value stands alone. -/
def read? (t : Text) : Option (Attribute × Text) :=
  match t.takeWhile isNameChar with
  | [] => none
  | name =>
    let rest := t.dropWhile isNameChar
    match readValue? rest with
    | some (value, rest) => some (⟨name, some value⟩, rest)
    | none => some (⟨name, none⟩, rest)

theorem readQuoted?_suffix {quote : Char} {t value rest : Text}
    (h : readQuoted? quote t = some (value, rest)) : rest <:+ t := by
  induction t generalizing value with
  | nil => simp [readQuoted?] at h
  | cons c t ih =>
    rw [readQuoted?] at h
    split at h
    · cases h
      exact List.suffix_cons ..
    · obtain ⟨⟨u, r⟩, hu, hr⟩ := Option.map_eq_some_iff.1 h
      cases hr
      exact (ih hu).trans (List.suffix_cons ..)

theorem readBare?_suffix {t value rest : Text} (h : readBare? t = some (value, rest)) : rest <:+ t := by
  unfold readBare? at h
  split at h
  · cases h
  · cases h
    exact List.dropWhile_suffix _

theorem readValue?_suffix {t value rest : Text} (h : readValue? t = some (value, rest)) :
    rest <:+ t := by
  unfold readValue? at h
  split at h
  · next u hu =>
    have hu : u <:+ t := by
      have := List.dropWhile_suffix (l := t) isBlank
      rw [hu] at this
      exact (List.suffix_cons ..).trans this
    have hs := (List.dropWhile_suffix (l := u) isBlank).trans hu
    split at h
    · next v hv =>
      rw [hv] at hs
      exact (readQuoted?_suffix h).trans ((List.suffix_cons ..).trans hs)
    · next v hv =>
      rw [hv] at hs
      exact (readQuoted?_suffix h).trans ((List.suffix_cons ..).trans hs)
    · exact (readBare?_suffix h).trans hs
  · cases h

theorem suffix_of_read? {t : Text} {a : Attribute} {rest : Text} (h : read? t = some (a, rest)) :
    rest <:+ t := by
  unfold read? at h
  split at h
  · cases h
  · have hs := List.dropWhile_suffix (l := t) isNameChar
    dsimp only at h
    split at h
    · next hv =>
      cases h
      exact (readValue?_suffix hv).trans hs
    · cases h
      exact hs

theorem length_of_read? {t : Text} {a : Attribute} {rest : Text} (h : read? t = some (a, rest)) :
    rest.length < t.length := by
  unfold read? at h
  split at h
  · cases h
  · next hne =>
    have hlen : (t.dropWhile isNameChar).length < t.length := by
      have := congrArg List.length (List.takeWhile_append_dropWhile (p := isNameChar) (l := t))
      have hpos : 0 < (t.takeWhile isNameChar).length :=
        List.length_pos_iff.2 fun h0 => hne h0
      rw [List.length_append] at this
      omega
    dsimp only at h
    split at h
    · next hv =>
      cases h
      exact Nat.lt_of_le_of_lt (readValue?_suffix hv).length_le hlen
    · cases h
      exact hlen

end Attribute

/-- The attributes of a tag by lower-cased name: a repeated name keeps its first place and takes its last
value. -/
abbrev Attributes := List (Text × Option Text)

namespace Attributes

def ofList (as : List Attribute) : Attributes :=
  Keyed.ofPairs (as.map fun a => (Text.lower a.name, a.value))

def readAll (t : Text) : List Attribute :=
  match t with
  | [] => []
  | c :: rest =>
    match _h : Attribute.read? (c :: rest) with
    | some (a, rest) => a :: readAll rest
    | none => readAll rest
termination_by t.length
decreasing_by
  · exact Attribute.length_of_read? _h
  · simp

def ofText (t : Text) : Attributes :=
  ofList (readAll t)

/-- The value of an attribute: absent, a name alone, or a text. -/
def value? (name : String) (as : Attributes) : Option (Option Text) :=
  Keyed.get? name.toList as

/-- The text given for an attribute, if any and not empty. -/
def text? (name : String) (as : Attributes) : Option Text :=
  match as.value? name with
  | some (some (c :: t)) => some (c :: t)
  | _ => none

def isSet (name : String) (as : Attributes) : Bool :=
  match as.value? name with
  | none => false
  | some none => true
  | some (some t) => !t.isEmpty

end Attributes

example : Attributes.ofText "a='1' b A=2".toList =
    [(['a'], some ['2']), (['b'], none)] := by decide +kernel

end ComponentFormat
