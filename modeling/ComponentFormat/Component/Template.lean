import ComponentFormat.Component.Tag
import ComponentFormat.Component.Fault

/-! # The end of an HTML template

The content of a template is cut into tokens; opening and closing tokens must nest, and the template ends at
the first closing tag named `template` that meets no open element.
-/
namespace ComponentFormat

def voidElements : List String :=
  ["area", "base", "br", "col", "embed", "hr", "img", "input", "keygen", "link", "menuitem", "meta",
    "param", "source", "track", "wbr"]

/-- Elements whose content is not interpreted, inside a template too. -/
def rawTextElements : List String :=
  ["script", "style", "textarea"]

def isVoid (name : Text) : Bool :=
  voidElements.any (·.toList == name)

def isRawText (name : Text) : Bool :=
  rawTextElements.any (·.toList == name)

/-- What leaves the balance of a template as it is. -/
inductive Inert where
  | comment
  | interpolation
  /-- A void, self-closing or raw-text element, whole. -/
  | leaf
  /-- A character of the text, or a mark that opens nothing. -/
  | other
  deriving DecidableEq, Repr

/-- What the balance of a template sees at one place. Names are in lower case. -/
inductive Token where
  | inert (kind : Inert)
  | opening (name : Text)
  | closing (name : Text)
  deriving DecidableEq, Repr

namespace Token

/-- The text after an interpolation, given the text behind its opening braces. An interpolation without
closing braces, or whose closing braces stand behind the next `</template`, is no interpolation. -/
def afterInterpolation? (t : Text) : Option Text :=
  match Text.cut? ['}', '}'] t with
  | none => none
  | some (expression, rest) => if Text.contains "</template".toList expression then none else some rest

/-- The token that an opening angle bracket starts, `t` being the text behind the bracket. -/
def readTag (t : Text) : Except Failure (Token × Text) :=
  match Text.after? "!--".toList t with
  | some inside =>
    match Text.cut? "-->".toList inside with
    | some (_, rest) => .ok (.inert .comment, rest)
    | none => .error ⟨.unterminatedComment, '<' :: t⟩
  | none =>
    match t with
    | '/' :: inside =>
      match ClosingTag.read? ('<' :: t) with
      | some (name, rest) => .ok (.closing (Text.lower name), rest)
      | none => .ok (.inert .other, inside)
    | _ =>
      match OpeningTag.read? ('<' :: t) with
      | none => .ok (.inert .other, t)
      | some (tag, rest) =>
        let name := Text.lower tag.name
        if tag.selfClosing || isVoid name then .ok (.inert .leaf, rest)
        else if isRawText name then
          match EndTag.find? name rest with
          | some e => .ok (.inert .leaf, e.rest)
          | none => .error ⟨.missingEnd name, '<' :: t⟩
        else .ok (.opening name, rest)

/-- The token at the front of a text that starts with `c`, and the text after it. -/
def read (c : Char) (t : Text) : Except Failure (Token × Text) :=
  if c = '<' then readTag t
  else if c = '{' then
    match t with
    | '{' :: inside =>
      match afterInterpolation? inside with
      | some rest => .ok (.inert .interpolation, rest)
      | none => .ok (.inert .other, inside)
    | _ => .ok (.inert .other, t)
  else .ok (.inert .other, t)

theorem suffix_of_cut? {needle t before rest : Text} (h : Text.cut? needle t = some (before, rest)) :
    rest <:+ t :=
  ⟨before ++ needle, (Text.append_of_cut?_eq_some h).symm⟩

theorem afterInterpolation?_suffix {t rest : Text} (h : afterInterpolation? t = some rest) :
    rest <:+ t := by
  unfold afterInterpolation? at h
  split at h
  · cases h
  · next hc =>
    split at h
    · cases h
    · cases h; exact suffix_of_cut? hc

theorem readTag_suffix {t rest : Text} {k : Token} (h : readTag t = .ok (k, rest)) : rest <:+ t := by
  unfold readTag at h
  split at h
  · next inside hi =>
    split at h
    · next hc =>
      cases h
      rw [Text.after?_eq_some_iff.1 hi]
      exact (suffix_of_cut? hc).trans (List.suffix_append ..)
    · cases h
  · split at h
    · split at h
      · next hc =>
        cases h
        exact ClosingTag.suffix_of_read? hc
      · cases h
        exact List.suffix_cons ..
    · split at h
      · cases h
        exact List.suffix_refl _
      · next hc =>
        have hs := OpeningTag.suffix_of_read? hc
        dsimp only at h
        split at h
        · cases h; exact hs
        · split at h
          · split at h
            · next he =>
              cases h
              obtain ⟨h1, h2, _⟩ := EndTag.suffix_of_find? he
              exact h2.trans (h1.trans hs)
            · cases h
          · cases h; exact hs

theorem suffix_of_read {c : Char} {t rest : Text} {k : Token} (h : read c t = .ok (k, rest)) :
    rest <:+ t := by
  unfold read at h
  split at h
  · exact readTag_suffix h
  · split at h
    · split at h
      · next inside =>
        split at h
        · next hi =>
          cases h
          exact (afterInterpolation?_suffix hi).trans (List.suffix_cons ..)
        · cases h
          exact List.suffix_cons ..
      · cases h
        exact List.suffix_refl _
    · cases h
      exact List.suffix_refl _

end Token

/-- An element that waits for its closing tag: its name, and the text from its opening tag on. -/
structure OpenElement where
  name : Text
  start : Text
  deriving DecidableEq, Repr

/-- The end tag of a template whose opening tag starts `root`, with `opened` the elements open in front of
the text, innermost first. -/
def Template.findEnd (root : Text) (opened : List OpenElement) (t : Text) : Except Failure EndTag :=
  match t with
  | [] =>
    match opened with
    | [] => .error ⟨.missingEnd "template".toList, root⟩
    | e :: _ => .error ⟨.missingEnd e.name, e.start⟩
  | c :: t =>
    match _h : Token.read c t with
    | .error f => .error f
    | .ok (.inert _, rest) => findEnd root opened rest
    | .ok (.opening name, rest) => findEnd root (⟨name, c :: t⟩ :: opened) rest
    | .ok (.closing name, rest) =>
      match opened with
      | [] =>
        if name = "template".toList then .ok ⟨c :: t, rest⟩
        else .error ⟨.strayClosing name, c :: t⟩
      | e :: outer =>
        if e.name = name then findEnd root outer rest
        else .error ⟨.misnested name e.name, c :: t⟩
termination_by t.length
decreasing_by
  all_goals
    have := (Token.suffix_of_read _h).length_le
    simp only [List.length_cons]
    omega

namespace Template

theorem suffix_of_findEnd {root t : Text} {opened : List OpenElement} {e : EndTag}
    (h : findEnd root opened t = .ok e) :
    e.start <:+ t ∧ e.rest <:+ e.start ∧ e.rest.length < e.start.length := by
  have step {c : Char} {t rest : Text} {k : Token} (hr : Token.read c t = .ok (k, rest)) :
      rest <:+ c :: t := (Token.suffix_of_read hr).trans (List.suffix_cons ..)
  fun_induction findEnd root opened t with
  | case1 => cases h
  | case2 => cases h
  | case3 => cases h
  | case4 opened c t kind rest hr ih => exact ⟨(ih h).1.trans (step hr), (ih h).2⟩
  | case5 opened c t name rest hr ih => exact ⟨(ih h).1.trans (step hr), (ih h).2⟩
  | case6 c t rest hr =>
    cases h
    exact ⟨List.suffix_refl _, step hr, Nat.lt_succ_of_le (Token.suffix_of_read hr).length_le⟩
  | case7 => cases h
  | case8 c t rest e outer hr ih => exact ⟨(ih h).1.trans (step hr), (ih h).2⟩
  | case9 => cases h

end Template

end ComponentFormat
