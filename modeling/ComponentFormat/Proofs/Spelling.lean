import ComponentFormat.Proofs.Delimiters
import ComponentFormat.Proofs.Names

/-! # How tags are written

A tag is spelled by its name, its attributes in any style of quoting and the blanks between them. The readers undo the
spelling: `OpeningTag.read?_spelled`, `ClosingTag.read?_spelled` and `EndTag.find?_spelled`.
-/
namespace ComponentFormat

def Text.Blank (t : Text) : Prop := ∀ c ∈ t, isBlank c = true

def Text.Solid (t : Text) : Prop := ∀ c ∈ t, isBlank c = false

namespace Text

instance (t : Text) : Decidable t.Blank := decidable_of_iff (t.all isBlank = true) List.all_eq_true

instance (t : Text) : Decidable t.Solid :=
  decidable_of_iff (t.all (fun c => !isBlank c) = true) (by simp [Solid])

@[simp] theorem blank_nil : Blank [] := List.forall_mem_nil _

@[simp] theorem blank_cons {c : Char} {t : Text} : Blank (c :: t) ↔ isBlank c = true ∧ t.Blank :=
  List.forall_mem_cons

@[simp] theorem blank_append {a b : Text} : Blank (a ++ b) ↔ a.Blank ∧ b.Blank := List.forall_mem_append

theorem blank_takeWhile (t : Text) : Blank (t.takeWhile isBlank) := List.all_eq_true.1 List.all_takeWhile

@[simp] theorem solid_nil : Solid [] := List.forall_mem_nil _

@[simp] theorem solid_cons {c : Char} {t : Text} : Solid (c :: t) ↔ isBlank c = false ∧ t.Solid :=
  List.forall_mem_cons

variable {p : Char → Bool}

theorem takeWhile_run {a t : Text} (ha : ∀ c ∈ a, p c = true) (ht : ∀ c ∈ t.head?, p c = false) :
    (a ++ t).takeWhile p = a := by
  rw [List.takeWhile_append_of_pos ha]
  cases t with
  | nil => simp
  | cons c t => simp [ht c rfl]

theorem dropWhile_run {a t : Text} (ha : ∀ c ∈ a, p c = true) (ht : ∀ c ∈ t.head?, p c = false) :
    (a ++ t).dropWhile p = t := by
  rw [List.dropWhile_append_of_pos ha]
  cases t with
  | nil => rfl
  | cons c t => simp [ht c rfl]

theorem head?_append_run {a t : Text} (hne : a ≠ []) (ha : ∀ c ∈ a, p c = true) :
    ∀ c ∈ (a ++ t).head?, p c = true := by
  obtain ⟨b, a, rfl⟩ := List.exists_cons_of_ne_nil hne
  simpa using ha b (List.mem_cons_self ..)

/-- A text that goes on with a character that the front of another does not have holds all of that front. -/
theorem exists_append_of_not_mem {a m t r : Text} {c d : Char} (h : a ++ c :: t = m ++ d :: r) (hm : c ∉ m)
    (hne : c ≠ d) : ∃ s, a = m ++ d :: s ∧ r = s ++ c :: t := by
  rcases List.append_eq_append_iff.1 h with ⟨z, rfl, hz⟩ | ⟨z, rfl, hz⟩
  · cases z with
    | nil => exact absurd (List.cons.inj hz).1 hne
    | cons e z =>
      refine absurd ?_ hm
      rw [(List.cons.inj hz).1]
      simp
  · cases z with
    | nil => exact absurd (List.cons.inj hz).1.symm hne
    | cons e z =>
      rw [List.cons_append, List.cons.injEq] at hz
      obtain ⟨rfl, hr⟩ := hz
      exact ⟨z, rfl, hr⟩

end Text

namespace Attribute

def IsName (name : Text) : Prop := name ≠ [] ∧ ∀ c ∈ name, isNameChar c = true

/-- In front of `next`, `t` spells the attribute: blanks, its name, and for a value an equals sign between blanks and
the value in quotes or bare. A slash goes on a bare value. -/
inductive Spelled (next : Text) : Attribute → Text → Prop
  | alone {gap name : Text} (hgap : gap.Blank) (hsome : gap ≠ []) (hname : IsName name) :
      Spelled next ⟨name, none⟩ (gap ++ name)
  | quoted {gap name left right value : Text} {quote : Char} (hgap : gap.Blank) (hsome : gap ≠ [])
      (hname : IsName name) (hleft : left.Blank) (hright : right.Blank) (hquote : quote = '"' ∨ quote = '\'')
      (hvalue : quote ∉ value) :
      Spelled next ⟨name, some value⟩ (gap ++ name ++ left ++ '=' :: right ++ quote :: value ++ [quote])
  | bare {gap name left right value : Text} (hgap : gap.Blank) (hsome : gap ≠ []) (hname : IsName name)
      (hleft : left.Blank) (hright : right.Blank) (hne : value ≠ []) (hvalue : ∀ c ∈ value, isBareChar c = true)
      (hnext : next.head? ≠ some '/') :
      Spelled next ⟨name, some value⟩ (gap ++ name ++ left ++ '=' :: right ++ value)

/-- What can follow an attribute: the blanks of the next one, or the end of the tag. -/
structure Follow (t : Text) : Prop where
  head : ∀ c ∈ t.head?, isBlank c = true ∨ c = '/' ∨ c = '>'
  next : ∀ c ∈ (t.dropWhile isBlank).head?, c ≠ '='

theorem follow_append {gap t : Text} (hgap : gap.Blank) (ht : ∀ c ∈ t.head?, c = '/' ∨ c = '>') :
    Follow (gap ++ t) := by
  refine ⟨fun c hc => ?_, ?_⟩
  · cases gap with
    | nil => exact .inr (ht c hc)
    | cons d gap =>
      cases hc
      exact .inl (hgap c (List.mem_cons_self ..))
  · rw [Text.dropWhile_run hgap]
    · intro c hc
      rcases ht c hc with rfl | rfl <;> decide
    · intro c hc
      rcases ht c hc with rfl | rfl <;> decide

theorem isNameChar_eq_false {c : Char} (h : isBlank c = true ∨ c = '/' ∨ c = '>') : isNameChar c = false := by
  rcases h with h | rfl | rfl
  · simp [isNameChar, h]
  · decide
  · decide

theorem not_blank_of_isNameChar {c : Char} (h : isNameChar c = true) : isBlank c = false := by
  simp only [isNameChar, Bool.and_eq_true, Bool.not_eq_true'] at h
  exact h.1.1.1.1.1

theorem not_blank_of_isBareChar {c : Char} (h : isBareChar c = true) : isBlank c = false := by
  simp only [isBareChar, Bool.and_eq_true, Bool.not_eq_true'] at h
  exact h.1.1.1.1.1.1

theorem not_blank_of_quote {c : Char} (h : c = '"' ∨ c = '\'') : isBlank c = false := by
  rcases h with rfl | rfl <;> decide

theorem readQuoted?_append {quote : Char} {value : Text} (h : quote ∉ value) (next : Text) :
    readQuoted? quote (value ++ quote :: next) = some (value, next) := by
  induction value with
  | nil => simp [readQuoted?]
  | cons c value ih =>
    obtain ⟨hc, hv⟩ := not_or.1 (mt List.mem_cons.2 h)
    simp [readQuoted?, Ne.symm hc, ih hv]

theorem readValue?_eq_none {t : Text} (h : ∀ c ∈ (t.dropWhile isBlank).head?, c ≠ '=') :
    readValue? t = none := by
  unfold readValue?
  split
  · next u hu => exact absurd rfl (h '=' (by simp [hu]))
  · rfl

theorem readValue?_equals {left : Text} (hleft : left.Blank) (t : Text) :
    readValue? (left ++ '=' :: t) = match t.dropWhile isBlank with
      | '"' :: t => readQuoted? '"' t
      | '\'' :: t => readQuoted? '\'' t
      | t => readBare? t := by
  have h : (left ++ '=' :: t).dropWhile isBlank = '=' :: t := Text.dropWhile_run hleft (by simp; decide)
  unfold readValue?
  rw [h]
  rfl

theorem readValue?_quoted {left right value : Text} {quote : Char} (hleft : left.Blank) (hright : right.Blank)
    (hquote : quote = '"' ∨ quote = '\'') (hvalue : quote ∉ value) (next : Text) :
    readValue? (left ++ '=' :: (right ++ quote :: (value ++ quote :: next))) = some (value, next) := by
  have hq := not_blank_of_quote hquote
  rw [readValue?_equals hleft, Text.dropWhile_run hright (by simpa using hq)]
  rcases hquote with rfl | rfl
  · exact readQuoted?_append hvalue next
  · exact readQuoted?_append hvalue next

theorem readValue?_bare {left right value next : Text} (hleft : left.Blank) (hright : right.Blank)
    (hne : value ≠ []) (hvalue : ∀ c ∈ value, isBareChar c = true)
    (hnext : ∀ c ∈ next.head?, isBareChar c = false) :
    readValue? (left ++ '=' :: (right ++ (value ++ next))) = some (value, next) := by
  obtain ⟨v, value, rfl⟩ := List.exists_cons_of_ne_nil hne
  have hv := hvalue v (List.mem_cons_self ..)
  have hbare : readBare? (v :: value ++ next) = some (v :: value, next) := by
    unfold readBare?
    rw [Text.takeWhile_run hvalue hnext, Text.dropWhile_run hvalue hnext]
  rw [readValue?_equals hleft, Text.dropWhile_run hright (by simpa using not_blank_of_isBareChar hv)]
  split
  · next u hu =>
    cases hu
    exact absurd hv (by decide)
  · next u hu =>
    cases hu
    exact absurd hv (by decide)
  · exact hbare

theorem read?_name {name rest : Text} (hname : IsName name) (hrest : ∀ c ∈ rest.head?, isNameChar c = false) :
    read? (name ++ rest) = match readValue? rest with
      | some (value, rest) => some (⟨name, some value⟩, rest)
      | none => some (⟨name, none⟩, rest) := by
  unfold read?
  rw [Text.takeWhile_run hname.2 hrest, Text.dropWhile_run hname.2 hrest]
  obtain ⟨c, name, rfl⟩ := List.exists_cons_of_ne_nil hname.1
  rfl

/-- The spelling behind its blanks is read back, in front of what may follow an attribute. -/
theorem Spelled.read? {a : Attribute} {next t : Text} (h : a.Spelled next t) :
    ∃ gap inner : Text, gap.Blank ∧ gap ≠ [] ∧ t = gap ++ inner ∧ (∀ c ∈ inner.head?, isNameChar c = true) ∧
      inner ≠ [] ∧ ∀ next', Follow next' → (next'.head? = some '/' → next.head? = some '/') →
        Attribute.read? (inner ++ next') = some (a, next') := by
  cases h with
  | @alone gap name hgap hsome hname =>
    refine ⟨gap, name, hgap, hsome, rfl, ?_, hname.1, fun next' hf _ => ?_⟩
    · simpa using Text.head?_append_run (t := []) hname.1 hname.2
    · rw [read?_name hname fun c hc => isNameChar_eq_false (hf.head c hc), readValue?_eq_none hf.next]
  | @quoted gap name left right value quote hgap hsome hname hleft hright hquote hvalue =>
    refine ⟨gap, name ++ left ++ '=' :: right ++ quote :: value ++ [quote], hgap, hsome, by simp, ?_,
      by simp [hname.1], fun next' hf _ => ?_⟩
    · simpa using Text.head?_append_run (t := left ++ '=' :: right ++ quote :: value ++ [quote]) hname.1 hname.2
    · have hrest : ∀ c ∈ (left ++ '=' :: (right ++ quote :: (value ++ quote :: next'))).head?,
          isNameChar c = false := by
        cases left with
        | nil => simp; decide
        | cons c left => simpa using isNameChar_eq_false (.inl (hleft c (List.mem_cons_self ..)))
      have := read?_name hname hrest
      rw [readValue?_quoted hleft hright hquote hvalue] at this
      simpa using this
  | @bare gap name left right value hgap hsome hname hleft hright hne hvalue hnext =>
    refine ⟨gap, name ++ left ++ '=' :: right ++ value, hgap, hsome, by simp, ?_,
      by simp [hname.1], fun next' hf hslash => ?_⟩
    · simpa using Text.head?_append_run (t := left ++ '=' :: right ++ value) hname.1 hname.2
    · have hrest : ∀ c ∈ (left ++ '=' :: (right ++ (value ++ next'))).head?, isNameChar c = false := by
        cases left with
        | nil => simp; decide
        | cons c left => simpa using isNameChar_eq_false (.inl (hleft c (List.mem_cons_self ..)))
      have hstop : ∀ c ∈ next'.head?, isBareChar c = false := by
        intro c hc
        rcases hf.head c hc with hb | rfl | rfl
        · simp [isBareChar, hb]
        · exact absurd (hslash hc) hnext
        · decide
      have := read?_name hname hrest
      rw [readValue?_bare hleft hright hne hvalue hstop] at this
      simpa using this

end Attribute

namespace Attributes
open Attribute (Follow)

/-- In front of `ending`, `t` spells the attributes. -/
inductive Spelled (ending : Text) : List Attribute → Text → Prop
  | nil : Spelled ending [] []
  | cons {a : Attribute} {as : List Attribute} {t u : Text} (ha : a.Spelled (u ++ ending) t)
      (has : Spelled ending as u) : Spelled ending (a :: as) (t ++ u)

theorem Spelled.follow {ending t next : Text} {as : List Attribute} (h : Spelled ending as t) (hf : Follow next) :
    Follow (t ++ next) := by
  cases h with
  | nil => exact hf
  | @cons a as t u ha has =>
    obtain ⟨gap, inner, hgap, hsome, rfl, hhead, hne, -⟩ := ha.read?
    obtain ⟨c, inner, rfl⟩ := List.exists_cons_of_ne_nil hne
    have hc := hhead c rfl
    refine ⟨?_, ?_⟩
    · simp only [List.append_assoc]
      exact fun d hd => .inl (Text.head?_append_run hsome hgap d hd)
    · simp only [List.append_assoc, List.cons_append]
      rw [Text.dropWhile_run hgap (by simpa using Attribute.not_blank_of_isNameChar hc)]
      rintro d hd rfl
      cases hd
      exact absurd hc (by decide)

theorem readAll_blanks {gap : Text} (hgap : gap.Blank) (t : Text) : readAll (gap ++ t) = readAll t := by
  induction gap with
  | nil => rfl
  | cons c gap ih =>
    obtain ⟨hc, hgap⟩ := List.forall_mem_cons.1 hgap
    have hn : Attribute.read? (c :: (gap ++ t)) = none := by
      simp [Attribute.read?, Attribute.isNameChar_eq_false (.inl hc)]
    rw [List.cons_append, readAll.eq_def]
    dsimp only
    split
    · next h => rw [hn] at h; cases h
    · exact ih hgap

theorem readAll_eq {t rest : Text} {a : Attribute} (h : Attribute.read? t = some (a, rest)) :
    readAll t = a :: readAll rest := by
  cases t with
  | nil => cases h
  | cons c t =>
    rw [readAll.eq_def]
    dsimp only
    split
    · next h' =>
      rw [h] at h'
      cases h'
      rfl
    · next h' => rw [h] at h'; cases h'

theorem Spelled.readAll {ending t : Text} {as : List Attribute} (h : Spelled ending as t) :
    Attributes.readAll t = as := by
  induction h with
  | nil => rw [Attributes.readAll.eq_def]
  | @cons a as t u ha has ih =>
    obtain ⟨gap, inner, hgap, -, rfl, -, -, hread⟩ := ha.read?
    have hf : Follow (u ++ []) := has.follow ⟨by simp, by simp⟩
    rw [List.append_nil] at hf
    have hslash : u.head? = some '/' → (u ++ ending).head? = some '/' := by
      intro hu
      rw [List.head?_append, hu]
      rfl
    rw [List.append_assoc, readAll_blanks hgap, readAll_eq (hread u hf hslash), ih]

theorem afterAttributes_cons {gap t ending : Text} {a : Attribute} (hgap : gap.Blank) (hsome : gap ≠ [])
    (ht : ∀ c ∈ t.head?, isBlank c = false) (h : Attribute.read? t = some (a, ending)) :
    afterAttributes (gap ++ t) = afterAttributes ending := by
  obtain ⟨c, gap, rfl⟩ := List.exists_cons_of_ne_nil hsome
  obtain ⟨hc, hgap⟩ := List.forall_mem_cons.1 hgap
  rw [List.cons_append, afterAttributes, if_pos hc]
  split
  · next h' =>
    rw [Text.dropWhile_run hgap ht, h] at h'
    cases h'
    rfl
  · next h' =>
    rw [Text.dropWhile_run hgap ht, h] at h'
    cases h'

theorem afterAttributes_ending {gap t : Text} (hgap : gap.Blank)
    (ht : ∀ c ∈ t.head?, c = '/' ∨ c = '>') : afterAttributes (gap ++ t) = gap ++ t := by
  have hblank : ∀ c ∈ t.head?, isBlank c = false := by
    intro c hc
    rcases ht c hc with rfl | rfl <;> decide
  have hread : Attribute.read? t = none := by
    cases t with
    | nil => rfl
    | cons c t => simp [Attribute.read?, Attribute.isNameChar_eq_false (.inr (ht c rfl))]
  cases gap with
  | nil =>
    cases t with
    | nil => rw [List.nil_append, afterAttributes]
    | cons c t =>
      rw [List.nil_append, afterAttributes, if_neg]
      simp [hblank c rfl]
  | cons c gap =>
    obtain ⟨hc, hgap⟩ := List.forall_mem_cons.1 hgap
    rw [List.cons_append, afterAttributes, if_pos hc]
    split
    · next h =>
      rw [Text.dropWhile_run hgap hblank, hread] at h
      cases h
    · rfl

theorem Spelled.afterAttributes {gap t u rest : Text} {as : List Attribute} (h : Spelled (gap ++ t) as u)
    (hgap : gap.Blank) (ht : ∀ c ∈ (t ++ rest).head?, c = '/' ∨ c = '>') (hne : t ≠ []) :
    ComponentFormat.afterAttributes (u ++ (gap ++ t ++ rest)) = gap ++ t ++ rest := by
  have hend : Follow (gap ++ t ++ rest) := by
    rw [List.append_assoc]
    exact Attribute.follow_append hgap ht
  induction h with
  | nil =>
    rw [List.nil_append, List.append_assoc]
    exact afterAttributes_ending hgap ht
  | @cons a as t' u ha has ih =>
    obtain ⟨gap', inner, hgap', hsome, rfl, hhead, hne', hread⟩ := ha.read?
    have hslash : (u ++ (gap ++ t ++ rest)).head? = some '/' → (u ++ (gap ++ t)).head? = some '/' := by
      obtain ⟨c, v, hv⟩ := List.exists_cons_of_ne_nil (show u ++ (gap ++ t) ≠ [] by simp [hne])
      rw [← List.append_assoc, hv]
      exact id
    have hblank : ∀ c ∈ (inner ++ (u ++ (gap ++ t ++ rest))).head?, isBlank c = false := by
      obtain ⟨c, inner, rfl⟩ := List.exists_cons_of_ne_nil hne'
      simpa using Attribute.not_blank_of_isNameChar (hhead c rfl)
    rw [List.append_assoc, List.append_assoc,
      afterAttributes_cons hgap' hsome hblank (hread _ (has.follow hend) hslash), ih]

end Attributes

namespace OpeningTag

def bracket (selfClosing : Bool) : Text :=
  if selfClosing then ['/', '>'] else ['>']

/-- An ASCII letter, then anything but blanks, slashes and closing brackets. -/
def IsName (name : Text) : Prop :=
  ∃ c t, name = c :: t ∧ isAsciiLetter c = true ∧ ∀ d ∈ t, isTagNameChar d = true

inductive Written : OpeningTag → List Attribute → Text → Prop
  | mk {name attributeText gap : Text} {as : List Attribute} {selfClosing : Bool} (hname : IsName name)
      (hgap : gap.Blank) (has : Attributes.Spelled (gap ++ bracket selfClosing) as attributeText) :
      Written ⟨name, attributeText, selfClosing⟩ as ('<' :: (name ++ attributeText ++ gap ++ bracket selfClosing))

/-- `t` spells the tag with the attributes `as`, the tag having a plain name. -/
inductive Spelled : OpeningTag → List Attribute → Text → Prop
  | mk {name attributeText gap : Text} {as : List Attribute} {selfClosing : Bool} (hname : name.IsPlainName)
      (hgap : gap.Blank) (has : Attributes.Spelled (gap ++ bracket selfClosing) as attributeText) :
      Spelled ⟨name, attributeText, selfClosing⟩ as ('<' :: (name ++ attributeText ++ gap ++ bracket selfClosing))

theorem isName_of_plain {name : Text} (h : name.IsPlainName) : IsName name := by
  obtain ⟨c, t, rfl, hc⟩ := h.letter
  exact ⟨c, t, rfl, hc, fun d hd => isTagNameChar_of_plain (h.plain d (List.mem_cons_of_mem _ hd))⟩

theorem Spelled.written {tag : OpeningTag} {as : List Attribute} {t : Text} (h : tag.Spelled as t) :
    tag.Written as t := by
  cases h with
  | mk hname hgap has => exact .mk (isName_of_plain hname) hgap has

theorem readEnd?_bracket {gap : Text} (hgap : gap.Blank) (selfClosing : Bool) (rest : Text) :
    readEnd? (gap ++ bracket selfClosing ++ rest) = some (selfClosing, rest) := by
  have h : (gap ++ bracket selfClosing ++ rest).dropWhile isBlank = bracket selfClosing ++ rest := by
    rw [List.append_assoc, Text.dropWhile_run hgap]
    cases selfClosing <;> simp [bracket] <;> decide
  unfold readEnd?
  rw [h]
  cases selfClosing <;> rfl

theorem read?_written {tag : OpeningTag} {as : List Attribute} {t : Text} (h : tag.Written as t) (rest : Text) :
    read? (t ++ rest) = some (tag, rest) := by
  cases h with
  | @mk name attributeText gap as selfClosing hname hgap has =>
    obtain ⟨c, name, rfl, hc, htag⟩ := hname
    have hends : ∀ d ∈ (bracket selfClosing ++ rest).head?, d = '/' ∨ d = '>' := by
      cases selfClosing <;> simp [bracket]
    have hafter := has.afterAttributes hgap hends (by cases selfClosing <;> simp [bracket])
    have hf : Attribute.Follow (attributeText ++ (gap ++ bracket selfClosing ++ rest)) := by
      rw [List.append_assoc gap]
      exact has.follow (Attribute.follow_append hgap hends)
    have hstop : ∀ d ∈ (attributeText ++ (gap ++ bracket selfClosing ++ rest)).head?,
        isTagNameChar d = false := by
      intro d hd
      rcases hf.head d hd with hb | rfl | rfl
      · simp [isTagNameChar, hb]
      · decide
      · decide
    have htext : '<' :: (c :: name ++ attributeText ++ gap ++ bracket selfClosing) ++ rest =
        '<' :: c :: (name ++ (attributeText ++ (gap ++ bracket selfClosing ++ rest))) := by simp
    rw [htext]
    simp only [read?, hc, if_true, Text.takeWhile_run htag hstop, Text.dropWhile_run htag hstop, hafter,
      readEnd?_bracket hgap, Option.map_some, Text.upTo_append_self]

theorem read?_spelled {tag : OpeningTag} {as : List Attribute} {t : Text} (h : tag.Spelled as t) (rest : Text) :
    read? (t ++ rest) = some (tag, rest) :=
  read?_written h.written rest

theorem Written.attributes {tag : OpeningTag} {as : List Attribute} {t : Text} (h : tag.Written as t) :
    Attributes.ofText tag.attributeText = Attributes.ofList as := by
  cases h with
  | mk hname hgap has => rw [Attributes.ofText, has.readAll]

theorem Spelled.attributes {tag : OpeningTag} {as : List Attribute} {t : Text} (h : tag.Spelled as t) :
    Attributes.ofText tag.attributeText = Attributes.ofList as :=
  h.written.attributes

end OpeningTag

namespace ClosingTag

inductive Spelled : (name t : Text) → Prop
  | mk {name gap : Text} (hname : name.IsPlainName) (hgap : gap.Blank) :
      Spelled name ('<' :: '/' :: (name ++ gap ++ ['>']))

theorem read?_spelled {name t : Text} (h : Spelled name t) (rest : Text) :
    read? (t ++ rest) = some (name, rest) := by
  cases h with
  | @mk gap hname hgap =>
    obtain ⟨c, name, rfl, hc⟩ := hname.letter
    have htag : ∀ d ∈ name, isTagNameChar d = true := fun d hd =>
      isTagNameChar_of_plain (hname.plain d (List.mem_cons_of_mem _ hd))
    have hstop : ∀ d ∈ (gap ++ '>' :: rest).head?, isTagNameChar d = false := by
      cases gap with
      | nil => simp; decide
      | cons d gap => simp [isTagNameChar, hgap d (List.mem_cons_self ..)]
    have htext : '<' :: '/' :: (c :: name ++ gap ++ ['>']) ++ rest =
        '<' :: '/' :: c :: (name ++ (gap ++ '>' :: rest)) := by simp
    have hgap : (gap ++ '>' :: rest).dropWhile isBlank = '>' :: rest :=
      Text.dropWhile_run hgap (by simp; decide)
    rw [htext]
    simp only [read?, hc, if_true, Text.takeWhile_run htag hstop, Text.dropWhile_run htag hstop, hgap]

/-- `t` is a closing tag of the name, in any letter case and with blanks behind the name. -/
def Closes (name t : Text) : Prop :=
  ∃ w gap : Text, name.Alike w ∧ gap.Blank ∧ t = '<' :: '/' :: (w ++ gap ++ ['>'])

/-- No closing tag of the name stands in `t`. -/
def Free (name t : Text) : Prop :=
  ∀ a u b, Closes name u → t ≠ a ++ u ++ b

/-- A closing tag of a name is read exactly where one stands. -/
theorem readNamed?_iff {name t rest : Text} : readNamed? name t = some rest ↔ ∃ u, Closes name u ∧ t = u ++ rest := by
  unfold readNamed?
  constructor
  · intro h
    split at h
    · cases h
    · next u hu =>
      split at h
      · next r hr =>
        cases h
        obtain ⟨v, hv, he⟩ := Option.map_eq_some_iff.1 hr
        obtain ⟨w, hw, rfl⟩ := Text.afterCaseless?_iff.1 hv
        refine ⟨_, ⟨w, v.takeWhile isBlank, hw, Text.blank_takeWhile v, rfl⟩, ?_⟩
        rw [Text.after?_eq_some_iff.1 hu]
        calc ['<', '/'] ++ (w ++ v) = ['<', '/'] ++ (w ++ (v.takeWhile isBlank ++ '>' :: rest)) := by
              rw [← he, List.takeWhile_append_dropWhile]
          _ = _ := by simp
      · cases h
  · rintro ⟨_, ⟨w, gap, hw, hgap, rfl⟩, rfl⟩
    have hafter : Text.after? ['<', '/'] ('<' :: '/' :: (w ++ gap ++ ['>']) ++ rest) =
        some (w ++ (gap ++ '>' :: rest)) := Text.after?_eq_some_iff.2 (by simp)
    have hcaseless : Text.afterCaseless? name (w ++ (gap ++ '>' :: rest)) = some (gap ++ '>' :: rest) :=
      Text.afterCaseless?_iff.2 ⟨w, hw, rfl⟩
    have hblank : (gap ++ '>' :: rest).dropWhile isBlank = '>' :: rest :=
      Text.dropWhile_run hgap (by simp; decide)
    simp only [hafter, hcaseless, Option.map_some, hblank]

/-- Of a plain name, what stands for the name holds no blank and no bracket. -/
theorem readNamed?_eq_some_iff {name t rest : Text} (hname : ∀ c ∈ name, isPlainNameChar c = true) :
    readNamed? name t = some rest ↔
      ∃ w gap : Text, name.Matches w ∧ gap.Blank ∧ t = '<' :: '/' :: (w ++ gap ++ '>' :: rest) := by
  rw [readNamed?_iff]
  constructor
  · rintro ⟨_, ⟨w, gap, hw, hgap, rfl⟩, rfl⟩
    exact ⟨w, gap, hw.matches_of_plain hname, hgap, by simp⟩
  · rintro ⟨w, gap, hw, hgap, rfl⟩
    obtain ⟨w', hw', he⟩ := Text.afterCaseless?_iff.1 hw.same
    rw [List.append_nil] at he
    exact ⟨_, ⟨w', gap, hw', hgap, rfl⟩, by simp [he]⟩

theorem readNamed?_spelled {name t : Text} (h : Spelled name t) (rest : Text) :
    readNamed? (Text.lower name) (t ++ rest) = some rest := by
  cases h with
  | @mk gap hname hgap =>
    have hlower := Text.plain_lower hname.plain
    obtain ⟨w, hw, he⟩ := (Text.afterCaseless?_eq_some_iff hlower).1
      (Text.afterCaseless?_lower hname.plain [])
    rw [List.append_nil, List.append_nil] at he
    subst he
    exact (readNamed?_eq_some_iff hlower).2 ⟨_, gap, hw, hgap, by simp⟩

end ClosingTag

namespace EndTag

theorem find?_eq_none_iff {name t : Text} :
    find? name t = none ↔ ∀ a b, t = a ++ b → ClosingTag.readNamed? name b = none := by
  induction t with
  | nil =>
    refine iff_of_true rfl fun a b h => ?_
    obtain ⟨-, rfl⟩ := List.append_eq_nil_iff.1 h.symm
    rfl
  | cons c t ih =>
    rw [find?]
    split
    · next rest hr =>
      refine iff_of_false (by simp) fun h => ?_
      rw [h [] (c :: t) rfl] at hr
      cases hr
    · next hr =>
      rw [ih]
      constructor
      · intro h a b he
        cases a with
        | nil => rwa [← List.nil_append b, ← he]
        | cons d a => exact h a b (List.cons.inj he).2
      · exact fun h a b he => h (c :: a) b (by rw [he]; rfl)

theorem find?_eq_none_iff_free {name t : Text} : find? name t = none ↔ ClosingTag.Free name t := by
  rw [find?_eq_none_iff]
  constructor
  · rintro h a u b hu rfl
    have hread : ClosingTag.readNamed? name (u ++ b) = some b := ClosingTag.readNamed?_iff.2 ⟨u, hu, rfl⟩
    rw [h a (u ++ b) (List.append_assoc ..)] at hread
    cases hread
  · rintro h a v rfl
    refine Option.eq_none_iff_forall_ne_some.2 fun rest hr => ?_
    obtain ⟨u, hu, rfl⟩ := ClosingTag.readNamed?_iff.1 hr
    exact h a u rest hu (List.append_assoc ..).symm

instance (name t : Text) : Decidable (ClosingTag.Free name t) :=
  decidable_of_iff (find? name t = none) find?_eq_none_iff_free

/-- Content without a closing tag of the name ends at the first one behind it. -/
theorem find?_spelled {name content t : Text} (hcontent : ClosingTag.Free (Text.lower name) content)
    (h : ClosingTag.Spelled name t) (rest : Text) :
    find? (Text.lower name) (content ++ (t ++ rest)) = some ⟨t ++ rest, rest⟩ := by
  rw [← find?_eq_none_iff_free] at hcontent
  have hread := ClosingTag.readNamed?_spelled h rest
  obtain ⟨u, hu, hlower⟩ : ∃ u, t ++ rest = '<' :: u ∧
      ∀ c ∈ Text.lower name, isPlainNameChar c = true := by
    cases h with
    | mk hname hgap => exact ⟨_, rfl, Text.plain_lower hname.plain⟩
  induction content with
  | nil =>
    rw [List.nil_append, hu, find?, ← hu, hread]
  | cons c content ih =>
    rw [find?] at hcontent
    split at hcontent
    · cases hcontent
    · next hc =>
      have hnone : ClosingTag.readNamed? (Text.lower name) (c :: (content ++ (t ++ rest))) = none := by
        refine Option.eq_none_iff_forall_ne_some.2 fun r hr => ?_
        obtain ⟨w, gap, hw, hgap, he⟩ := (ClosingTag.readNamed?_eq_some_iff hlower).1 hr
        rw [hu] at he
        obtain ⟨hlt, he⟩ := List.cons.inj he
        have hmem : '<' ∉ '/' :: (w ++ gap) := by
          intro hm
          rcases List.mem_cons.1 hm with h | hm
          · exact absurd h (by decide)
          · rcases List.mem_append.1 hm with hm | hm
            · exact (hw.clean _ hm).2 (by simp [marks])
            · exact absurd (hgap _ hm) (by decide)
        obtain ⟨s, hs, -⟩ := Text.exists_append_of_not_mem he hmem (by decide)
        rw [(ClosingTag.readNamed?_eq_some_iff hlower).2 ⟨w, gap, hw, hgap, by rw [hlt, hs]; rfl⟩] at hc
        cases hc
      rw [List.cons_append, find?, hnone]
      exact ih hcontent

end EndTag

end ComponentFormat
