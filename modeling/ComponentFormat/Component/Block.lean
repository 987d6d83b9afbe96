import ComponentFormat.Component.Template

/-! # Top-level blocks

A block is an opening tag, its content and an end tag; a self-closing block is its tag alone. An HTML template
ends at its balanced closing tag, every other block at the first closing tag of its name.
-/
namespace ComponentFormat

structure Block where
  /-- In lower case. -/
  name : Text
  attributes : Attributes
  opening : Text
  content : Text
  closing : Text
  deriving DecidableEq, Repr

/-- The place that a block takes in a component. -/
inductive Slot where
  | single (kind : Singleton)
  | style
  | custom
  deriving DecidableEq, Repr

namespace Block

def source (b : Block) : Text :=
  b.opening ++ b.content ++ b.closing

def length (b : Block) : Nat :=
  b.opening.length + b.content.length + b.closing.length

def lang (b : Block) : Option Text :=
  b.attributes.text? "lang"

def isSetup (b : Block) : Bool :=
  b.attributes.isSet "setup"

def slot (b : Block) : Slot :=
  if b.name = "template".toList then .single .template
  else if b.name = "script".toList then .single (if b.isSetup then .scriptSetup else .script)
  else if b.name = "style".toList then .style
  else .custom

/-- Templates are HTML unless a dialect other than `html` is named, be it the empty one. -/
def isHtmlTemplate (name : Text) (attributes : Attributes) : Bool :=
  name == "template".toList &&
    match attributes.value? "lang" with
    | none => true
    | some value => value == some "html".toList

/-- The end of the block that `tag` opens, the text `t` starting with the tag and `inside` following it. -/
def findEnd (tag : OpeningTag) (t inside : Text) : Except Failure EndTag :=
  let name := Text.lower tag.name
  if tag.selfClosing then .ok ⟨inside, inside⟩
  else if isHtmlTemplate name (Attributes.ofText tag.attributeText) then Template.findEnd t [] inside
  else match EndTag.find? name inside with
    | some e => .ok e
    | none => .error ⟨.missingEnd name, t⟩

/-- The block that `tag` opens at the front of `t`, and the text after it. -/
def read (tag : OpeningTag) (t inside : Text) : Except Failure (Block × Text) :=
  (findEnd tag t inside).map fun e =>
    ({ name := Text.lower tag.name
       attributes := Attributes.ofText tag.attributeText
       opening := Text.upTo t inside
       content := Text.upTo inside e.start
       closing := Text.upTo e.start e.rest }, e.rest)

@[simp] theorem length_source (b : Block) : b.source.length = b.length := by
  simp [source, length, Nat.add_assoc]

theorem suffix_of_findEnd {tag : OpeningTag} {t inside : Text} {e : EndTag}
    (h : findEnd tag t inside = .ok e) : e.start <:+ inside ∧ e.rest <:+ e.start := by
  unfold findEnd at h
  dsimp only at h
  split at h
  · cases h
    exact ⟨List.suffix_refl _, List.suffix_refl _⟩
  · split at h
    · obtain ⟨h1, h2, _⟩ := Template.suffix_of_findEnd h
      exact ⟨h1, h2⟩
    · split at h
      · next he =>
        cases h
        obtain ⟨h1, h2, _⟩ := EndTag.suffix_of_find? he
        exact ⟨h1, h2⟩
      · cases h

theorem append_of_read {tag : OpeningTag} {t inside rest : Text} {b : Block} (hin : inside <:+ t)
    (h : read tag t inside = .ok (b, rest)) : t = b.source ++ rest ∧ rest <:+ inside := by
  unfold read at h
  cases he : findEnd tag t inside with
  | error f => rw [he] at h; cases h
  | ok e =>
    rw [he] at h
    cases h
    obtain ⟨h1, h2⟩ := suffix_of_findEnd he
    exact ⟨by simp [source, Text.upTo_append hin, Text.upTo_append h1, Text.upTo_append h2], h2.trans h1⟩

end Block

end ComponentFormat
