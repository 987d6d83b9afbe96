import ComponentFormat.Engine.Handler
import ComponentFormat.Proofs.Rows
import ComponentFormat.Proofs.TagGrammar
import ComponentFormat.Proofs.Terminators

/-! # Blocks with one terminator

A block in which one terminator is written for all is again a block, of the same name and with its content and the
values of its attributes rewritten. It is in the same slot, and a markup engine is chosen for it as before.
-/
namespace ComponentFormat

namespace Text

theorem withTerminator_word {w : Text} (hw : w.Solid) (hne : w ≠ []) (e a b : Text) :
    withTerminator e (a ++ (w ++ b)) = withTerminator e a ++ (w ++ withTerminator e b) := by
  have hfront : Seam a (w ++ b) := by
    obtain ⟨c, w, rfl⟩ := List.exists_cons_of_ne_nil hne
    exact seam_of_head rfl (ne_lineFeed_of_solid (hw c (List.mem_cons_self ..)))
  have hback : Seam w b := by
    refine seam_of_getLast (List.getLast?_eq_some_getLast hne) fun hr => ?_
    have := hw _ (List.getLast_mem hne)
    rw [hr] at this
    cases this
  rw [withTerminator_append hfront, withTerminator_append hback,
    withTerminator_of_not_hasBreak (not_hasBreak_of_solid hw)]

@[simp] theorem withTerminator_nil (e : Text) : withTerminator e [] = [] :=
  withTerminator_of_not_hasBreak hasBreak_nil e

end Text

namespace Attribute

def withTerminator (e : Terminator) (a : Attribute) : Attribute := ⟨a.name, a.value.map (Text.withTerminator e.text)⟩

theorem Spelled.withTerminator {a : Attribute} {next next' t : Text} (h : a.Spelled next t)
    (hnext : next'.head? = some '/' → next.head? = some '/') (e : Terminator) :
    (a.withTerminator e).Spelled next' (Text.withTerminator e.text t) := by
  have hflow := Text.reflowed_withTerminator e
  have hblank {g : Text} (hg : g.Blank) : Text.Blank (Text.withTerminator e.text g) := (hflow g).blank hg
  cases h with
  | @alone gap name hgap hsome hname =>
    have ht := Text.withTerminator_word hname.solid hname.1 e.text gap []
    rw [List.append_nil, Text.withTerminator_nil, List.append_nil] at ht
    rw [ht]
    exact .alone (hblank hgap) ((hflow gap).ne_nil hsome) hname
  | @quoted gap name left right value quote hgap hsome hname hleft hright hquote hvalue =>
    have hq := not_blank_of_quote hquote
    have ht : gap ++ name ++ left ++ '=' :: right ++ quote :: value ++ [quote] =
        gap ++ (name ++ (left ++ (['='] ++ (right ++ ([quote] ++ (value ++ ([quote] ++ []))))))) := by simp
    have hword : Text.Solid [quote] := by simpa using hq
    rw [ht, Text.withTerminator_word hname.solid hname.1, Text.withTerminator_word (by decide) (by simp),
      Text.withTerminator_word hword (by simp), Text.withTerminator_word hword (by simp)]
    have hspelled : (Attribute.withTerminator e ⟨name, some value⟩).Spelled next' _ :=
      .quoted (hblank hgap) ((hflow gap).ne_nil hsome) hname (hblank hleft) (hblank hright) hquote
        (mt ((hflow value).mem_iff hq).2 hvalue)
    simpa using hspelled
  | @bare gap name left right value hgap hsome hname hleft hright hne hvalue hslash =>
    have hsolid : value.Solid := fun c hc => not_blank_of_isBareChar (hvalue c hc)
    have ht : gap ++ name ++ left ++ '=' :: right ++ value =
        gap ++ (name ++ (left ++ (['='] ++ (right ++ (value ++ []))))) := by simp
    rw [ht, Text.withTerminator_word hname.solid hname.1, Text.withTerminator_word (by decide) (by simp),
      Text.withTerminator_word hsolid hne]
    have hsame : Text.withTerminator e.text value = value :=
      Text.withTerminator_of_not_hasBreak (Text.not_hasBreak_of_solid hsolid) _
    have hspelled := Spelled.bare (hblank hgap) ((hflow gap).ne_nil hsome) hname (hblank hleft) (hblank hright) hne
      hvalue (mt hnext hslash)
    simpa [Attribute.withTerminator, hsame] using hspelled

end Attribute

namespace Attributes

def withTerminator (e : Terminator) (as : Attributes) : Attributes :=
  Keyed.mapValues (Option.map (Text.withTerminator e.text)) as

variable (e : Terminator)

theorem withTerminator_ofList (as : List Attribute) :
    withTerminator e (ofList as) = ofList (as.map (Attribute.withTerminator e)) := by
  rw [withTerminator, ofList, Keyed.mapValues_ofPairs]
  simp [Keyed.mapValues, ofList, Attribute.withTerminator, Function.comp_def]

theorem collapse_withTerminator (as : Attributes) : collapse (withTerminator e as) = collapse as := by
  rw [collapse, collapse, withTerminator, Keyed.mapValues, Keyed.mapValues, Keyed.mapValues, List.map_map]
  refine List.map_congr_left fun p _ => ?_
  obtain ⟨key, _ | value⟩ := p
  · rfl
  · exact congrArg (fun v => (key, some v)) (Text.reflowed_withTerminator e value).symm

theorem text?_withTerminator (name : String) (as : Attributes) :
    text? name (withTerminator e as) = (text? name as).map (Text.withTerminator e.text) := by
  have hvalue : value? name (withTerminator e as) = (value? name as).map (Option.map (Text.withTerminator e.text)) :=
    Keyed.get?_mapValues ..
  unfold text?
  rw [hvalue]
  rcases value? name as with _ | _ | _ | ⟨c, t⟩
  · rfl
  · rfl
  · simp
  · have hne := (Text.reflowed_withTerminator e (c :: t)).ne_nil (by simp)
    obtain ⟨d, u, hd⟩ := List.exists_cons_of_ne_nil hne
    simp [hd]

variable {e}

theorem Spelled.withTerminator {ending ending' t : Text} {as : List Attribute} (h : Spelled ending as t)
    (hend : ending'.head? = some '/' → ending.head? = some '/') (e : Terminator) :
    Spelled ending' (as.map (Attribute.withTerminator e)) (Text.withTerminator e.text t) := by
  induction h with
  | nil =>
    rw [Text.withTerminator_nil]
    exact .nil
  | @cons a as t u ha has ih =>
    have hseam : Text.Seam t u := by
      obtain ⟨c, hc, hb⟩ := ha.ends.2
      refine Text.seam_of_getLast hc ?_
      rintro rfl
      cases hb
    have hslash : (Text.withTerminator e.text u ++ ending').head? = some '/' → (u ++ ending).head? = some '/' := by
      intro hd
      rcases ih.head? with hn | ⟨d, hd', hb⟩
      · rw [hn] at hd
        have hflow := (Text.reflowed_withTerminator e u).symm
        rw [hn] at hflow
        rw [hflow.eq_nil]
        exact hend hd
      · rw [List.head?_append, Option.mem_def.1 hd'] at hd
        cases hd
        exact absurd hb (by decide)
    rw [Text.withTerminator_append hseam, List.map_cons]
    exact .cons (ha.withTerminator hslash e) ih

end Attributes

/-- In the opening tag the values of the attributes are rewritten. -/
theorem OpeningTag.Spelled.withTerminator {tag : OpeningTag} {as : List Attribute} {t : Text} (h : tag.Spelled as t)
    (e : Terminator) : ∃ tag', Spelled tag' (as.map (Attribute.withTerminator e)) (Text.withTerminator e.text t) ∧
      tag'.name = tag.name ∧ tag'.selfClosing = tag.selfClosing := by
  cases h with
  | @mk name attributeText gap as b hname hgap has =>
    have hflow := Text.reflowed_withTerminator e gap
    have hbracket := bracket_solid b
    have hslash : (Text.withTerminator e.text gap ++ bracket b).head? = some '/' →
        (gap ++ bracket b).head? = some '/' :=
      ((hflow.append_right (bracket b)).head?_iff (by decide)).2
    have hseam : Text.Seam attributeText (gap ++ (bracket b ++ [])) := by
      rintro ⟨hr, -⟩
      have := has.getLast? _ hr
      cases this
    have hsome : name ≠ [] := by
      obtain ⟨c, name, rfl, -⟩ := hname.letter
      simp
    have ht : '<' :: (name ++ attributeText ++ gap ++ bracket b) =
        [] ++ (['<'] ++ ([] ++ (name ++ (attributeText ++ (gap ++ (bracket b ++ [])))))) := by simp
    rw [ht, Text.withTerminator_word (by decide) (by simp), Text.withTerminator_word hname.solid hsome,
      Text.withTerminator_append hseam, Text.withTerminator_word hbracket (by cases b <;> simp [bracket])]
    refine ⟨⟨name, Text.withTerminator e.text attributeText, b⟩, ?_, rfl, rfl⟩
    have hspelled := Spelled.mk hname (hflow.blank hgap) (has.withTerminator hslash e)
    simpa using hspelled

namespace Block

def withTerminator (e : Terminator) (b : Block) : Block where
  name := b.name
  attributes := b.attributes.withTerminator e
  opening := Text.withTerminator e.text b.opening
  content := Text.withTerminator e.text b.content
  closing := Text.withTerminator e.text b.closing

variable {b : Block}

theorem html_withTerminator (e : Terminator) (name : Text) (as : Attributes) :
    Html name (as.withTerminator e) ↔ Html name as := by
  rw [← html_collapse, Attributes.collapse_withTerminator, html_collapse]

theorem reflows_withTerminator (e : Terminator) (b : Block) : b.Reflows (b.withTerminator e) :=
  ⟨rfl, Attributes.collapse_withTerminator e _, Text.reflowed_withTerminator e _, Text.reflowed_withTerminator e _,
    Text.reflowed_withTerminator e _⟩

theorem Spelled.withTerminator (h : b.Spelled) (e : Terminator) : (b.withTerminator e).Spelled := by
  have hflow := Text.reflowed_withTerminator e
  cases h with
  | @selfClosing tag as t htag hclosed =>
    obtain ⟨tag', htag', hn, hs⟩ := htag.withTerminator e
    have := Spelled.selfClosing htag' (hs.trans hclosed)
    rw [hn, ← Attributes.withTerminator_ofList] at this
    simpa [Block.withTerminator] using this
  | @raw tag as t content name u htag hopen hraw hcontent hclose hname =>
    obtain ⟨tag', htag', hn, hs⟩ := htag.withTerminator e
    rw [← hn] at hraw hcontent hname
    rw [← html_withTerminator e, Attributes.withTerminator_ofList] at hraw
    have := Spelled.raw htag' (hs.trans hopen) hraw (hcontent.reflow htag'.plain_lower (hflow content))
      (hclose.reflow (hflow u)) hname
    rwa [hn, ← Attributes.withTerminator_ofList] at this
  | @html tag as t content name u htag hopen hhtml hcontent hclose hname =>
    obtain ⟨tag', htag', hn, hs⟩ := htag.withTerminator e
    rw [← hn] at hhtml hname
    rw [← html_withTerminator e, Attributes.withTerminator_ofList] at hhtml
    have := Spelled.html htag' (hs.trans hopen) hhtml (hcontent.reflow (hflow content)) (hclose.reflow (hflow u)) hname
    rwa [hn, ← Attributes.withTerminator_ofList] at this

/-- No terminator straddles a bracket. -/
theorem source_withTerminator (h : b.Delimited) (e : Terminator) :
    (b.withTerminator e).source = Text.withTerminator e.text b.source := by
  obtain ⟨hfront, hback⟩ := h.seams
  rw [source, source, Text.withTerminator_append hback, Text.withTerminator_append hfront]
  rfl

/-- Markup is formatted in no language but HTML, and that has no terminator in its name. -/
theorem lang_withTerminator {parser : Text} (h : Handler.markupParser b.lang = some parser) (e : Terminator) :
    (b.withTerminator e).lang = b.lang := by
  have hlang : (b.withTerminator e).lang = b.lang.map (Text.withTerminator e.text) :=
    Attributes.text?_withTerminator e "lang" b.attributes
  rw [hlang]
  cases hl : b.lang with
  | none => rfl
  | some l =>
    rw [hl] at h
    simp only [Handler.markupParser] at h
    split at h
    · next hlower =>
      have hname : Text.PlainLower "html".toList := by decide
      have hword : Text.Solid l := fun c hc =>
        (((Text.alike_of_lowerFrom hlower hname).matches_of_plain hname.plain).clean c hc).1
      rw [Option.map_some, Text.withTerminator_of_not_hasBreak (Text.not_hasBreak_of_solid hword)]
    · cases h

end Block

end ComponentFormat
