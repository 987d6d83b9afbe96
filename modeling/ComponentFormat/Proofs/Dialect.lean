import ComponentFormat.Engine.Reindent
import ComponentFormat.Proofs.Passes
import ComponentFormat.Proofs.Records
import ComponentFormat.Proofs.Slots

/-! # Which templates are HTML

The reader and the markup handler both tell an HTML template by its `lang`. The reader takes the attribute as it is
written and looks for the balanced closing tag of an HTML template, for the first closing tag of any other; the handler
takes the language in lower case, and no language for an empty one. A template that has been balanced always has a
parser, but one that has been cut out as raw text has one too where its `lang` has no value, an empty one, or `html` in
other letters, and there the two disagree (`Component.template_dialect`).
-/
namespace ComponentFormat

namespace Block

/-- How the end of a block is looked for: in the text from its opening tag on, and the text behind that tag. -/
abbrev Search := Text → Text → Except Failure EndTag

/-- The closing tag that balances the template. -/
def Search.balanced : Search := fun t inside => Template.findEnd t [] inside

/-- The first closing tag of the name. -/
def Search.raw (name : Text) : Search := fun t inside =>
  match EndTag.find? name inside with
  | some e => .ok e
  | none => .error ⟨.missingEnd name, t⟩

/-- In front of `rest` the block ends where `search` finds its end, and this is how the end of a block with its opening
tag is looked for, whatever stands behind the tag. -/
def EndsBy (search : Search) (b : Block) (rest : Text) : Prop :=
  ∃ tag inside, OpeningTag.read? (b.source ++ rest) = some (tag, inside) ∧ findEnd tag = search ∧
    search (b.source ++ rest) inside = .ok ⟨b.closing ++ rest, rest⟩

theorem EndsBy.unique {search search' : Search} {b : Block} {rest : Text} (h : b.EndsBy search rest)
    (h' : b.EndsBy search' rest) : search = search' := by
  obtain ⟨tag, inside, hread, hsearch, -⟩ := h
  obtain ⟨tag', inside', hread', hsearch', -⟩ := h'
  rw [hread] at hread'
  cases hread'
  exact hsearch.symm.trans hsearch'

theorem Search.balanced_ne_raw : balanced ≠ raw "template".toList := by
  intro h
  -- a template in a template ends at another tag
  have hsame := congrArg (fun search : Search =>
    (search [] "<template></template></template>".toList).toOption.map EndTag.rest) h
  revert hsame
  decide +kernel

theorem findEnd_eq {tag : OpeningTag} (hopen : tag.selfClosing = false) : findEnd tag =
    if isHtmlTemplate (Text.lower tag.name) (Attributes.ofText tag.attributeText) then Search.balanced
    else Search.raw (Text.lower tag.name) := by
  funext t inside
  unfold findEnd
  dsimp only
  rw [hopen, if_neg (by decide)]
  split <;> rfl

theorem Stands.endsBy {b : Block} {rest : Text} (h : b.Stands rest) (hclosing : b.closing ≠ []) :
    b.EndsBy (if isHtmlTemplate b.name b.attributes then Search.balanced else Search.raw b.name) rest := by
  obtain ⟨tag, inside, hread, hb⟩ := h
  have hopen : tag.selfClosing = false := by
    obtain ⟨-, -, hends⟩ := written_of_read hread hb
    refine Bool.eq_false_iff.2 fun hclosed => ?_
    rw [if_pos hclosed] at hends
    exact hclosing hends.2
  obtain ⟨e, he, hblock, rfl⟩ := exists_of_read hb
  have hname : b.name = Text.lower tag.name := congrArg Block.name hblock
  have hattributes : b.attributes = Attributes.ofText tag.attributeText := congrArg Block.attributes hblock
  have hend : b.closing = Text.upTo e.start e.rest := congrArg Block.closing hblock
  have hsearch := findEnd_eq hopen
  rw [← hname, ← hattributes] at hsearch
  refine ⟨tag, inside, hread, hsearch, ?_⟩
  rw [← hsearch, he, hend, Text.upTo_append (suffix_of_findEnd he).2]

/-- The `lang` of the block has no value, an empty one, or `html` in letters that are not all lower-case ones. -/
def LooselyHtml (b : Block) : Prop :=
  b.attributes.value? "lang" = some none ∨ ∃ value, b.attributes.value? "lang" = some (some value) ∧
    (value = [] ∨ value ≠ "html".toList ∧ Text.lower value = "html".toList)

section
variable {b : Block} (hname : b.name = "template".toList)
include hname

theorem not_looselyHtml (h : isHtmlTemplate b.name b.attributes = true) : ¬b.LooselyHtml := by
  rw [isHtmlTemplate, hname, beq_self_eq_true, Bool.true_and] at h
  rintro (hvalue | ⟨value, hvalue, hloose⟩)
  · rw [hvalue] at h
    cases h
  · rw [hvalue] at h
    obtain rfl : value = "html".toList := by simpa using h
    simp at hloose

/-- The handler takes what the reader takes for HTML, and what is loosely HTML. -/
theorem isSome_markupParser_iff : (Handler.markupParser b.lang).isSome ↔
    isHtmlTemplate b.name b.attributes = true ∨ b.LooselyHtml := by
  have hlower : Text.lower "html".toList = "html".toList := by decide +kernel
  unfold LooselyHtml Handler.markupParser
  rw [isHtmlTemplate, hname, beq_self_eq_true, Bool.true_and, lang, Attributes.text?]
  -- no `lang`, one without a value, an empty one, and any other
  rcases b.attributes.value? "lang" with _ | _ | _ | ⟨c, value⟩
  · simp
  · simp
  · simp
  · dsimp only
    by_cases hhtml : c :: value = "html".toList
    · rw [hhtml, hlower]
      simp
    · split <;> simp_all

theorem Stands.endsBy_balanced_iff {rest : Text} (h : b.Stands rest) (hclosing : b.closing ≠ []) :
    b.EndsBy Search.balanced rest ↔ isHtmlTemplate b.name b.attributes = true := by
  have hends := h.endsBy hclosing
  constructor
  · intro hbalanced
    by_contra hraw
    rw [if_neg hraw, hname] at hends
    exact Search.balanced_ne_raw (hbalanced.unique hends)
  · intro hhtml
    rwa [if_pos hhtml] at hends

end

end Block

/-- A template that does not close itself ends by the balanced search or by the raw one. If by the balanced one, the
markup handler has a parser for its language; the two agree unless it is loosely HTML; and there is a call for it
exactly where it is not blank and ends by the balanced search or is loosely HTML. -/
theorem Component.template_dialect {d : Document} {c : Component} (h : ofText d.text = .ok c) {p : Placed}
    (hp : p ∈ c.blocks) (hslot : p.block.slot = .single .template) (hclosing : p.block.closing ≠ []) :
    ∃ x y, p.Sits x y d.text ∧
      (p.block.EndsBy .balanced y ∨ p.block.EndsBy (.raw "template".toList) y) ∧
      ¬(p.block.EndsBy .balanced y ∧ p.block.EndsBy (.raw "template".toList) y) ∧
      (p.block.EndsBy .balanced y → (Handler.markupParser p.block.lang).isSome) ∧
      ((p.block.EndsBy .balanced y ↔ (Handler.markupParser p.block.lang).isSome) ↔ ¬p.block.LooselyHtml) ∧
      ((Region.ofBlock d .markup p).call?.isSome ↔ Text.isAllBlank p.block.content = false ∧
        (p.block.EndsBy .balanced y ∨ p.block.LooselyHtml)) := by
  obtain ⟨x, y, ht, hstart, hstands⟩ := (ofText_eq_ok_iff.1 h).1.exists_stands hp
  obtain ⟨_, _, hs⟩ := sits_of_mem h hp
  have hname := p.block.slot_iff.1.1 hslot
  have hends := hstands.endsBy hclosing
  have hbalanced := hstands.endsBy_balanced_iff hname hclosing
  have hparser := Block.isSome_markupParser_iff hname
  have hnot := Block.not_looselyHtml hname
  refine ⟨x, y, ⟨by rw [ht, List.append_assoc], by simpa using hstart, hs.delimited⟩, ?_, ?_, ?_, ?_, ?_⟩
  · by_cases hhtml : Block.isHtmlTemplate p.block.name p.block.attributes = true
    · exact .inl (hbalanced.2 hhtml)
    · rw [if_neg hhtml, hname] at hends
      exact .inr hends
  · rintro ⟨hb, hr⟩
    exact Block.Search.balanced_ne_raw (hb.unique hr)
  · exact fun hb => hparser.2 (.inl (hbalanced.1 hb))
  · rw [hbalanced, hparser]
    tauto
  · have hcall : (Region.ofBlock d .markup p).call?.isSome ↔ Text.isAllBlank p.block.content = false ∧
        (Handler.markupParser p.block.lang).isSome := by
      simp only [Option.isSome_iff_exists, Region.call?_eq_some_iff]
      constructor
      · rintro ⟨call, hwork, parser, hselect, -⟩
        exact ⟨hwork, parser, hselect⟩
      · rintro ⟨hwork, parser, hselect⟩
        exact ⟨_, hwork, parser, hselect, rfl⟩
    rw [hcall, hparser, hbalanced]

def nested : Document := .ofText "<template lang=\"html\">\n<template>a</template>\n</template>".toList

theorem Component.template_dialect_nested : ∃ c p, ofText nested.text = .ok c ∧ p ∈ c.blocks ∧
    p.block.content = "\n<template>a</template>\n".toList ∧ ∃ x y, p.Sits x y nested.text ∧
      (p.block.EndsBy .balanced y ↔ (Handler.markupParser p.block.lang).isSome) ∧
      (Handler.markupParser p.block.lang).isSome := by
  let p : Placed := ⟨0, ⟨"template".toList, [("lang".toList, some "html".toList)], "<template lang=\"html\">".toList,
    "\n<template>a</template>\n".toList, "</template>".toList⟩⟩
  have h : ofText nested.text = .ok ⟨[p]⟩ := ofText_of_toOption (by decide +kernel)
  have hvalue : p.block.attributes.value? "lang" = some (some "html".toList) := by decide +kernel
  have hstrict : ¬p.block.LooselyHtml := by
    rintro (hnone | ⟨value, hsome, hloose⟩)
    · cases hvalue.symm.trans hnone
    · cases hvalue.symm.trans hsome
      simp at hloose
  obtain ⟨x, y, hs, -, -, -, hagree, -⟩ := template_dialect (p := p) h (by simp) (by decide +kernel) (by decide +kernel)
  exact ⟨_, p, h, by simp, rfl, x, y, hs, hagree.2 hstrict, by decide +kernel⟩

def capitals : Document := .ofText "<template lang=\"HTML\">\n<div>\n</template>".toList

/-- A template in capital HTML is cut out as raw text, an element that is never closed notwithstanding, and sent to the
markup engine. -/
theorem Component.template_dialect_capital : ∃ c p, ofText capitals.text = .ok c ∧ p ∈ c.blocks ∧
    p.block.slot = .single .template ∧ p.block.closing ≠ [] ∧ p.Sits [] [] capitals.text ∧
    p.block.EndsBy (.raw "template".toList) [] ∧ ¬p.block.EndsBy .balanced [] ∧
    (Handler.markupParser p.block.lang).isSome ∧
    (Pass.ofDocument Reindent.engines .default capitals).trace.calls = [⟨.markup, [], capitals.text⟩] := by
  let p : Placed := ⟨0, ⟨"template".toList, [("lang".toList, some "HTML".toList)], "<template lang=\"HTML\">".toList,
    "\n<div>\n".toList, "</template>".toList⟩⟩
  have h : ofText capitals.text = .ok ⟨[p]⟩ := ofText_of_toOption (by decide +kernel)
  obtain ⟨_, _, hs⟩ := sits_of_mem h (List.mem_singleton_self p)
  have hread : OpeningTag.read? (p.block.source ++ []) =
      some (⟨"template".toList, " lang=\"HTML\"".toList, false⟩, "\n<div>\n</template>".toList) := by decide +kernel
  have hsearch : Block.findEnd ⟨"template".toList, " lang=\"HTML\"".toList, false⟩ = _ := Block.findEnd_eq rfl
  have hraw : p.block.EndsBy (.raw "template".toList) [] :=
    ⟨_, _, hread, hsearch.trans (if_neg (by decide +kernel)), ok_of_toOption (by decide +kernel)⟩
  refine ⟨_, p, h, by simp, by decide +kernel, by decide +kernel, ⟨by decide +kernel, rfl, hs.delimited⟩, hraw,
    fun hbalanced => Block.Search.balanced_ne_raw (hbalanced.unique hraw), by decide +kernel, by decide +kernel⟩

end ComponentFormat
