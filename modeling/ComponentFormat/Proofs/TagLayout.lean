import Mathlib.Data.List.Induction
import ComponentFormat.Proofs.Layering
import ComponentFormat.Proofs.TagGrammar

/-! # Tags as they are laid out

A layout of a tag says how each part of it is written, down to the blanks. A tag is read exactly where one is laid out,
whatever follows it, and the reader of attributes finds those of the layout in the text between the name and the end of
the tag: under lower-cased names, a repeated name at its first place with its last value (`OpeningTag.layouts_read`).
-/
namespace ComponentFormat

namespace Keyed
variable {κ α : Type} [BEq κ]

theorem ofPairs_concat (pairs : List (κ × α)) (p : κ × α) : ofPairs (pairs ++ [p]) = put p.1 p.2 (ofPairs pairs) := by
  rw [ofPairs, override, List.foldl_append]
  rfl

variable [LawfulBEq κ]

theorem keys_ofPairs (pairs : List (κ × α)) : (ofPairs pairs).map Prod.fst = (pairs.map Prod.fst).eraseDups := by
  induction pairs using List.reverseRecOn with
  | nil => rfl
  | append_singleton pairs p ih =>
    rw [ofPairs_concat, List.map_append, List.map_singleton, List.eraseDups_append, ← ih]
    have hmem : p.1 ∈ pairs.map Prod.fst ↔ p.1 ∈ (ofPairs pairs).map Prod.fst := by rw [ih, List.mem_eraseDups]
    rcases put_cases p.1 p.2 (ofPairs pairs) with ⟨hnone, hput⟩ | ⟨before, q, behind, hpairs, hq, hput⟩
    · have hnew : p.1 ∉ pairs.map Prod.fst := by
        rw [hmem]
        intro hp
        obtain ⟨q, hq, he⟩ := List.mem_map.1 hp
        exact absurd (beq_iff_eq.2 he) (by rw [hnone q hq]; exact Bool.false_ne_true)
      rw [hput]
      simp [List.removeAll, hnew, List.eraseDups_cons]
    · have hold : p.1 ∈ pairs.map Prod.fst := by
        rw [hmem, hpairs, ← eq_of_beq hq]
        simp
      rw [hput, hpairs]
      simp [List.removeAll, hold]

theorem get?_ofPairs (key : κ) (pairs : List (κ × α)) :
    get? key (ofPairs pairs) = (pairs.reverse.find? (·.1 == key)).map Prod.snd := by
  induction pairs using List.reverseRecOn with
  | nil => rfl
  | append_singleton pairs p ih =>
    rw [ofPairs_concat, List.reverse_append, List.reverse_singleton, List.singleton_append]
    by_cases h : p.1 = key
    · rw [List.find?_cons_of_pos (by simpa using h), ← h, get?_put_self]
      rfl
    · rw [List.find?_cons_of_neg (by simpa using h), get?_put_of_ne h, ih]

end Keyed

namespace Attribute

/-- How the value of an attribute is given: not at all, or behind an equals sign with blanks around it, between quotes
or bare. -/
inductive ValueLayout where
  | alone
  | quoted (left right value : Text) (quote : Char) (hleft : left.Blank) (hright : right.Blank)
      (hquote : quote = '"' ∨ quote = '\'') (hvalue : quote ∉ value)
  | bare (left right value : Text) (hleft : left.Blank) (hright : right.Blank) (hne : value ≠ [])
      (hvalue : ∀ c ∈ value, isBareChar c = true)

namespace ValueLayout

def text : ValueLayout → Text
  | alone => []
  | quoted left right value quote _ _ _ _ => left ++ '=' :: right ++ quote :: value ++ [quote]
  | bare left right value _ _ _ _ => left ++ '=' :: right ++ value

def value? : ValueLayout → Option Text
  | alone => none
  | quoted _ _ value _ _ _ _ _ => some value
  | bare _ _ value _ _ _ _ => some value

def isBare : ValueLayout → Bool
  | bare .. => true
  | _ => false

end ValueLayout

/-- An attribute with the blanks in front of it, of which there is at least one. -/
structure Layout where
  gap : Text
  name : Text
  value : ValueLayout
  blank : gap.Blank
  parted : gap ≠ []
  isName : IsName name

namespace Layout

def text (a : Layout) : Text := a.gap ++ a.name ++ a.value.text

def toAttribute (a : Layout) : Attribute := ⟨a.name, a.value.value?⟩

def entry (a : Layout) : Text × Option Text := (Text.lower a.name, a.value.value?)

/-- What is laid out is a spelling, unless a slash goes on its bare value. -/
theorem spelled (a : Layout) {next : Text} (h : a.value.isBare = true → next.head? ≠ some '/') :
    a.toAttribute.Spelled next a.text := by
  obtain ⟨gap, name, value, hgap, hsome, hname⟩ := a
  cases value with
  | alone =>
    have hspelled : Spelled next _ _ := .alone hgap hsome hname
    simpa [text, toAttribute, ValueLayout.text, ValueLayout.value?] using hspelled
  | quoted left right value quote hleft hright hquote hvalue =>
    have hspelled : Spelled next _ _ := .quoted hgap hsome hname hleft hright hquote hvalue
    simpa [text, toAttribute, ValueLayout.text, ValueLayout.value?] using hspelled
  | bare left right value hleft hright hne hvalue =>
    have hspelled : Spelled next _ _ := .bare hgap hsome hname hleft hright hne hvalue (h rfl)
    simpa [text, toAttribute, ValueLayout.text, ValueLayout.value?] using hspelled

end Layout

theorem Spelled.exists_layout {a : Attribute} {next t : Text} (h : a.Spelled next t) :
    ∃ l : Layout, l.toAttribute = a ∧ l.text = t ∧ (l.value.isBare = true → next.head? ≠ some '/') := by
  cases h with
  | @alone gap name hgap hsome hname =>
    exact ⟨⟨gap, name, .alone, hgap, hsome, hname⟩, rfl, by simp [Layout.text, ValueLayout.text], by
      simp [ValueLayout.isBare]⟩
  | @quoted gap name left right value quote hgap hsome hname hleft hright hquote hvalue =>
    exact ⟨⟨gap, name, .quoted left right value quote hleft hright hquote hvalue, hgap, hsome, hname⟩, rfl,
      by simp [Layout.text, ValueLayout.text], by simp [ValueLayout.isBare]⟩
  | @bare gap name left right value hgap hsome hname hleft hright hne hvalue hnext =>
    exact ⟨⟨gap, name, .bare left right value hleft hright hne hvalue, hgap, hsome, hname⟩, rfl,
      by simp [Layout.text, ValueLayout.text], fun _ => hnext⟩

end Attribute

namespace Attributes
open Attribute (Layout)

def layoutText (as : List Layout) : Text := as.flatMap Layout.text

/-- No slash goes on a bare value at the end. -/
def Closable (ending : Text) (as : List Layout) : Prop :=
  ∀ a ∈ as.getLast?, a.value.isBare = true → ending.head? ≠ some '/'

theorem spelled_layoutText {ending : Text} {as : List Layout} (h : Closable ending as) :
    Spelled ending (as.map Layout.toAttribute) (layoutText as) := by
  induction as with
  | nil => exact .nil
  | cons a as ih =>
    have hcons : layoutText (a :: as) = a.text ++ layoutText as := List.flatMap_cons ..
    rw [hcons, List.map_cons]
    cases as with
    | nil => exact .cons (a.spelled (h a rfl)) .nil
    | cons b as =>
      refine .cons (a.spelled fun _ hslash => ?_) (ih fun c hc => h c hc)
      -- what follows is the blanks of the next attribute
      obtain ⟨c, gap, hgap⟩ := List.exists_cons_of_ne_nil b.parted
      have hblank := b.blank c (by simp [hgap])
      have hhead : (layoutText (b :: as) ++ ending).head? = some c := by simp [layoutText, Layout.text, hgap]
      rw [hhead] at hslash
      cases hslash
      exact absurd hblank (by decide)

theorem Spelled.exists_layouts {ending t : Text} {as : List Attribute} (h : Spelled ending as t) :
    ∃ ls : List Layout, ls.map Layout.toAttribute = as ∧ layoutText ls = t ∧ Closable ending ls := by
  induction h with
  | nil => exact ⟨[], rfl, rfl, by simp [Closable]⟩
  | @cons a as t u ha _ ih =>
    obtain ⟨ls, rfl, rfl, hclose⟩ := ih
    obtain ⟨l, rfl, rfl, hbare⟩ := ha.exists_layout
    refine ⟨l :: ls, rfl, List.flatMap_cons .., ?_⟩
    cases ls with
    | nil =>
      rintro a ⟨⟩
      exact hbare
    | cons b ls => exact fun a ha => hclose a ha

end Attributes

namespace OpeningTag

/-- An opening tag with all its blanks. A slash that closes it does not go on a bare value. -/
structure Layout where
  name : Text
  attributes : List Attribute.Layout
  gap : Text
  selfClosing : Bool
  isName : IsName name
  blank : gap.Blank
  closable : Attributes.Closable (gap ++ bracket selfClosing) attributes

namespace Layout

def text (l : Layout) : Text :=
  '<' :: (l.name ++ Attributes.layoutText l.attributes ++ l.gap ++ bracket l.selfClosing)

def tag (l : Layout) : OpeningTag := ⟨l.name, Attributes.layoutText l.attributes, l.selfClosing⟩

theorem written (l : Layout) : l.tag.Written (l.attributes.map Attribute.Layout.toAttribute) l.text :=
  .mk l.isName l.blank (Attributes.spelled_layoutText l.closable)

end Layout

theorem Written.exists_layout {tag : OpeningTag} {as : List Attribute} {t : Text} (h : tag.Written as t) :
    ∃ l : Layout, l.tag = tag ∧ l.text = t := by
  cases h with
  | @mk name attributeText gap as selfClosing hname hgap has =>
    obtain ⟨ls, -, rfl, hclose⟩ := has.exists_layouts
    exact ⟨⟨name, ls, gap, selfClosing, hname, hgap, hclose⟩, rfl, rfl⟩

/-- A tag is read exactly where it is laid out, in front of any text, with its name, what stands between the name and
the end, and whether it closes itself. The attributes of what stands there are those laid out: their names in lower
case, each at the place of its first attribute, with the value of its last. -/
theorem layouts_read :
    (∀ t tag rest, read? t = some (tag, rest) ↔ ∃ l : Layout, l.tag = tag ∧ t = l.text ++ rest) ∧
    ∀ l : Layout,
      (Attributes.ofText l.tag.attributeText).map Prod.fst = (l.attributes.map (·.entry.1)).eraseDups ∧
      ∀ name, Keyed.get? name (Attributes.ofText l.tag.attributeText) =
        ((l.attributes.map (·.entry)).reverse.find? (·.1 == name)).map Prod.snd := by
  refine ⟨fun t tag rest => ⟨fun h => ?_, ?_⟩, fun l => ?_⟩
  · obtain ⟨as, u, hwritten, rfl⟩ := read?_eq_some_iff.1 h
    obtain ⟨l, rfl, rfl⟩ := hwritten.exists_layout
    exact ⟨l, rfl, rfl⟩
  · rintro ⟨l, rfl, rfl⟩
    exact read?_written l.written rest
  · have hentries : Attributes.ofText l.tag.attributeText = Keyed.ofPairs (l.attributes.map (·.entry)) := by
      rw [l.written.attributes, Attributes.ofList, List.map_map]
      rfl
    rw [hentries, Keyed.keys_ofPairs, List.map_map]
    exact ⟨rfl, fun name => Keyed.get?_ofPairs name _⟩

example : (read? "<a b='/>' B=\"1\" c />d".toList).map (fun p => (p.1.selfClosing, p.2)) = some (true, ['d']) := by
  decide +kernel

end OpeningTag

end ComponentFormat
