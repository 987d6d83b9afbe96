import ComponentFormat.Component.Attributes

/-! # Tags

Readers for a tag at the front of a text. A reader gives back the text after the tag, which is always an
ending of the text it was given and shorter than it.
-/
namespace ComponentFormat

structure OpeningTag where
  /-- The name as written. -/
  name : Text
  attributeText : Text
  selfClosing : Bool
  deriving DecidableEq, Repr

def isTagNameChar (c : Char) : Bool :=
  !isBlank c && c != '/' && c != '>'

/-- The text after as many attributes as can be read, each behind at least one blank. -/
def afterAttributes (t : Text) : Text :=
  match t with
  | [] => []
  | c :: rest =>
    if isBlank c then
      match _h : Attribute.read? (rest.dropWhile isBlank) with
      | some (_, ending) => afterAttributes ending
      | none => c :: rest
    else c :: rest
termination_by t.length
decreasing_by
  have h1 := Attribute.length_of_read? _h
  have h2 := (List.dropWhile_suffix (l := rest) isBlank).length_le
  simp only [List.length_cons]
  omega

theorem afterAttributes_suffix (t : Text) : afterAttributes t <:+ t := by
  fun_induction afterAttributes t with
  | case1 => exact List.suffix_refl _
  | case2 c rest _ _ _ hr ih =>
    exact ih.trans ((Attribute.suffix_of_read? hr).trans
      ((List.dropWhile_suffix _).trans (List.suffix_cons ..)))
  | case3 => exact List.suffix_refl _
  | case4 => exact List.suffix_refl _

namespace OpeningTag

/-- The end of an opening tag: blanks, a slash if the tag closes itself, the angle bracket. -/
def readEnd? (t : Text) : Option (Bool × Text) :=
  match t.dropWhile isBlank with
  | '/' :: '>' :: rest => some (true, rest)
  | '>' :: rest => some (false, rest)
  | _ => none

/-- The opening tag at the front, and the text after it. -/
def read? : Text → Option (OpeningTag × Text)
  | '<' :: c :: t =>
    if isAsciiLetter c then
      let inside := t.dropWhile isTagNameChar
      let ending := afterAttributes inside
      (readEnd? ending).map fun (selfClosing, rest) =>
        (⟨c :: t.takeWhile isTagNameChar, Text.upTo inside ending, selfClosing⟩, rest)
    else none
  | _ => none

theorem readEnd?_suffix {t rest : Text} {b : Bool} (h : readEnd? t = some (b, rest)) : rest <:+ t := by
  have hs := List.dropWhile_suffix (l := t) isBlank
  unfold readEnd? at h
  split at h
  · next r hr =>
    cases h
    rw [hr] at hs
    exact ((List.suffix_cons ..).trans (List.suffix_cons ..)).trans hs
  · next r hr =>
    cases h
    rw [hr] at hs
    exact (List.suffix_cons ..).trans hs
  · cases h

theorem suffix_of_read? {c : Char} {t rest : Text} {tag : OpeningTag}
    (h : read? (c :: t) = some (tag, rest)) : rest <:+ t := by
  unfold read? at h
  split at h
  · next d u hd =>
    cases hd
    split at h
    · obtain ⟨⟨b, r⟩, hr, he⟩ := Option.map_eq_some_iff.1 h
      cases he
      exact (readEnd?_suffix hr).trans ((afterAttributes_suffix _).trans
        ((List.dropWhile_suffix _).trans (List.suffix_cons ..)))
    · cases h
  · cases h

end OpeningTag

namespace ClosingTag

/-- The name as written of the closing tag at the front, and the text after it. -/
def read? : Text → Option (Text × Text)
  | '<' :: '/' :: c :: t =>
    if isAsciiLetter c then
      match (t.dropWhile isTagNameChar).dropWhile isBlank with
      | '>' :: rest => some (c :: t.takeWhile isTagNameChar, rest)
      | _ => none
    else none
  | _ => none

/-- The text after the closing tag at the front whose name is `name` up to case. -/
def readNamed? (name t : Text) : Option Text :=
  match Text.after? ['<', '/'] t with
  | none => none
  | some t =>
    match (Text.afterCaseless? name t).map (·.dropWhile isBlank) with
    | some ('>' :: rest) => some rest
    | _ => none

theorem suffix_of_read? {c : Char} {t name rest : Text} (h : read? (c :: t) = some (name, rest)) :
    rest <:+ t := by
  unfold read? at h
  split at h
  · next d u hd =>
    cases hd
    split at h
    · split at h
      · next r hr =>
        cases h
        have hs := (List.dropWhile_suffix (l := u.dropWhile isTagNameChar) isBlank).trans
          (List.dropWhile_suffix (l := u) isTagNameChar)
        rw [hr] at hs
        exact (List.suffix_cons ..).trans (hs.trans
          ((List.suffix_cons ..).trans (List.suffix_cons ..)))
      · cases h
    · cases h
  · cases h

end ClosingTag

/-- A closing tag in a longer text: the text from the tag on, and the text after it. -/
structure EndTag where
  start : Text
  rest : Text
  deriving DecidableEq, Repr

/-- The first closing tag named `name` up to case; nothing before it is interpreted. -/
def EndTag.find? (name : Text) : Text → Option EndTag
  | [] => none
  | c :: t =>
    match ClosingTag.readNamed? name (c :: t) with
    | some rest => some ⟨c :: t, rest⟩
    | none => find? name t

theorem Text.afterCaseless?_suffix {name t rest : Text} (h : Text.afterCaseless? name t = some rest) :
    rest <:+ t := by
  induction name generalizing t with
  | nil => cases h; exact List.suffix_refl _
  | cons n name ih =>
    cases t with
    | nil => cases h
    | cons c t =>
      rw [Text.afterCaseless?] at h
      split at h
      · exact (ih h).trans (List.suffix_cons ..)
      · cases h

theorem ClosingTag.suffix_of_readNamed? {name t rest : Text}
    (h : ClosingTag.readNamed? name t = some rest) : rest <:+ t ∧ rest.length < t.length := by
  unfold ClosingTag.readNamed? at h
  split at h
  · cases h
  · next u hu =>
    split at h
    · next r hr =>
      cases h
      obtain ⟨v, hv, he⟩ := Option.map_eq_some_iff.1 hr
      have hs := List.dropWhile_suffix (l := v) isBlank
      rw [he] at hs
      rw [Text.after?_eq_some_iff.1 hu]
      have hu : rest <:+ u :=
        (List.suffix_cons ..).trans (hs.trans (Text.afterCaseless?_suffix hv))
      refine ⟨hu.trans (List.suffix_append ..), ?_⟩
      have := hu.length_le
      simp only [List.length_append, List.length_cons, List.length_nil]
      omega
    · cases h

theorem EndTag.suffix_of_find? {name t : Text} {e : EndTag} (h : EndTag.find? name t = some e) :
    e.start <:+ t ∧ e.rest <:+ e.start ∧ e.rest.length < e.start.length := by
  induction t with
  | nil => cases h
  | cons c t ih =>
    rw [EndTag.find?] at h
    split at h
    · next r hr =>
      cases h
      exact ⟨List.suffix_refl _, ClosingTag.suffix_of_readNamed? hr⟩
    · obtain ⟨h1, h2⟩ := ih h
      exact ⟨h1.trans (List.suffix_cons ..), h2⟩

end ComponentFormat
