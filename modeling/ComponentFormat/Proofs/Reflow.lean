import ComponentFormat.Proofs.Assembly
import ComponentFormat.Proofs.Collapse

/-! # Reflowing what is well formed

A reflowed tag is a tag with the same name whose attribute values are reflowed, a reflowed template is as well nested as
before, and a reflowed row of blocks and gaps is a row of as many reflowed blocks and gaps. Neither the place of a block
in its component nor the way it is read changes.
-/
namespace ComponentFormat
open Text (Reflowed Firm firm_of_head firm_of_getLast)

def Attribute.collapse (a : Attribute) : Attribute := ⟨a.name, a.value.map Text.collapse⟩

namespace Attribute

theorem IsName.solid {name : Text} (h : IsName name) : name.Solid :=
  fun c hc => not_blank_of_isNameChar (h.2 c hc)

end Attribute

theorem Text.firm_of_solid {w : Text} (h : w.Solid) (t : Text) : Firm w t := by
  intro c hc _ _
  exact .inl (h c (List.mem_of_mem_getLast? hc))

theorem Text.firm_solid_append {w : Text} (h : w.Solid) (hne : w ≠ []) (t u : Text) : Firm t (w ++ u) := by
  obtain ⟨c, w, rfl⟩ := List.exists_cons_of_ne_nil hne
  exact firm_of_head rfl (h c (List.mem_cons_self ..)) t

namespace Text.Reflowed
open Attribute (IsName)

/-- A solid word keeps its place in front of the rest. -/
theorem split_word {w u t : Text} (hw : w.Solid) (h : Reflowed (w ++ u) t) :
    ∃ u', t = w ++ u' ∧ Reflowed u u' := by
  obtain ⟨w', u', rfl, hw', hu⟩ := h.split (Text.firm_of_solid hw u)
  rw [hw'.eq_of_solid hw]
  exact ⟨u', rfl, hu⟩

theorem split_gap {gap w u t : Text} (hgap : gap.Blank) (hw : w.Solid) (hne : w ≠ [])
    (h : Reflowed (gap ++ (w ++ u)) t) :
    ∃ gap' u', t = gap' ++ (w ++ u') ∧ Text.Blank gap' ∧ Reflowed gap gap' ∧ Reflowed u u' := by
  obtain ⟨c, w, rfl⟩ := List.exists_cons_of_ne_nil hne
  obtain ⟨gap', v, rfl, hg, hv⟩ := h.split (firm_of_head rfl (hw c (List.mem_cons_self ..)) gap)
  obtain ⟨u', rfl, hu⟩ := hv.split_word hw
  exact ⟨gap', u', rfl, hg.blank hgap, hg, hu⟩

end Text.Reflowed

namespace Attribute

theorem Spelled.reflow {a : Attribute} {next next' t t' : Text} (h : a.Spelled next t) (ht : Reflowed t t')
    (hnext : next'.head? = some '/' → next.head? = some '/') :
    ∃ a', Spelled next' a' t' ∧ a'.collapse = a.collapse := by
  cases h with
  | @alone gap name hgap hsome hname =>
    rw [← List.append_nil name] at ht
    obtain ⟨gap', u, rfl, hgap', hg, hu⟩ := ht.split_gap hgap hname.solid hname.1
    obtain rfl := hu.eq_nil
    rw [List.append_nil]
    exact ⟨⟨name, none⟩, .alone hgap' (hg.ne_nil hsome) hname, rfl⟩
  | @quoted gap name left right value quote hgap hsome hname hleft hright hquote hvalue =>
    have hq := not_blank_of_quote hquote
    have htext : gap ++ name ++ left ++ '=' :: right ++ quote :: value ++ [quote] =
        gap ++ (name ++ (left ++ (['='] ++ (right ++ ([quote] ++ (value ++ [quote])))))) := by simp
    rw [htext] at ht
    obtain ⟨gap', u, rfl, hgap', hg, hu⟩ := ht.split_gap hgap hname.solid hname.1
    obtain ⟨left', v, rfl, hleft', -, hv⟩ := hu.split_gap hleft (by decide) (by simp)
    obtain ⟨right', w, rfl, hright', -, hw⟩ := hv.split_gap hright (by simpa using hq) (by simp)
    obtain ⟨value', q, rfl, hval, hqq⟩ := hw.split (firm_of_head rfl hq value)
    obtain rfl := hqq.eq_of_solid (by simpa using hq)
    refine ⟨⟨name, some value'⟩, ?_, congrArg (fun v => Attribute.mk name (some v)) hval.symm⟩
    have hspelled : Spelled next' ⟨name, some value'⟩
        (gap' ++ name ++ left' ++ '=' :: right' ++ quote :: value' ++ [quote]) :=
      .quoted hgap' (hg.ne_nil hsome) hname hleft' hright' hquote (mt (hval.mem_iff hq).2 hvalue)
    simpa using hspelled
  | @bare gap name left right value hgap hsome hname hleft hright hne hvalue hslash =>
    have hsolid : value.Solid := fun c hc => not_blank_of_isBareChar (hvalue c hc)
    have htext : gap ++ name ++ left ++ '=' :: right ++ value =
        gap ++ (name ++ (left ++ (['='] ++ (right ++ (value ++ []))))) := by simp
    rw [htext] at ht
    obtain ⟨gap', u, rfl, hgap', hg, hu⟩ := ht.split_gap hgap hname.solid hname.1
    obtain ⟨left', v, rfl, hleft', -, hv⟩ := hu.split_gap hleft (by decide) (by simp)
    obtain ⟨right', w, rfl, hright', -, hw⟩ := hv.split_gap hright hsolid hne
    obtain rfl := hw.eq_nil
    refine ⟨⟨name, some value⟩, ?_, rfl⟩
    have hspelled : Spelled next' ⟨name, some value⟩ (gap' ++ name ++ left' ++ '=' :: right' ++ value) :=
      .bare hgap' (hg.ne_nil hsome) hname hleft' hright' hne hvalue (mt hnext hslash)
    simpa using hspelled

theorem Spelled.ends {a : Attribute} {next t : Text} (h : a.Spelled next t) :
    (∃ c ∈ t.head?, isBlank c = true) ∧ ∃ c ∈ t.getLast?, isBlank c = false := by
  have hgapHead {gap : Text} (hgap : gap.Blank) (hsome : gap ≠ []) (u : Text) :
      ∃ c ∈ (gap ++ u).head?, isBlank c = true := by
    obtain ⟨c, gap, rfl⟩ := List.exists_cons_of_ne_nil hsome
    exact ⟨c, rfl, hgap c (List.mem_cons_self ..)⟩
  have hlast {w : Text} (hne : w ≠ []) (hw : w.Solid) (u : Text) :
      ∃ c ∈ (u ++ w).getLast?, isBlank c = false := by
    refine ⟨w.getLast hne, ?_, hw _ (List.getLast_mem hne)⟩
    rw [List.getLast?_append, List.getLast?_eq_some_getLast hne]
    rfl
  cases h with
  | @alone gap name hgap hsome hname => exact ⟨hgapHead hgap hsome name, hlast hname.1 hname.solid gap⟩
  | @quoted gap name left right value quote hgap hsome hname hleft hright hquote hvalue =>
    have hq := not_blank_of_quote hquote
    refine ⟨?_, hlast (by simp) (by simpa using hq) _⟩
    simp only [List.append_assoc]
    exact hgapHead hgap hsome _
  | @bare gap name left right value hgap hsome hname hleft hright hne hvalue hslash =>
    refine ⟨?_, hlast hne (fun c hc => not_blank_of_isBareChar (hvalue c hc)) _⟩
    simp only [List.append_assoc]
    exact hgapHead hgap hsome _

end Attribute

namespace Attributes

theorem Spelled.head? {ending t : Text} {as : List Attribute} (h : Spelled ending as t) :
    t = [] ∨ ∃ c ∈ t.head?, isBlank c = true := by
  cases h with
  | nil => exact .inl rfl
  | cons ha has =>
    obtain ⟨c, hc, hb⟩ := ha.ends.1
    refine .inr ⟨c, ?_, hb⟩
    rw [List.head?_append, hc]
    rfl

theorem Spelled.getLast? {ending t : Text} {as : List Attribute} (h : Spelled ending as t) :
    ∀ c ∈ t.getLast?, isBlank c = false := by
  induction h with
  | nil => simp
  | @cons a as t u ha has ih =>
    intro c hc
    rw [List.getLast?_append] at hc
    cases hu : u.getLast? with
    | some d =>
      rw [hu] at hc
      cases hc
      exact ih c hu
    | none =>
      rw [hu] at hc
      obtain ⟨d, hd, hb⟩ := ha.ends.2
      rw [Option.mem_def.1 hd] at hc
      cases hc
      exact hb

theorem Spelled.reflow {ending ending' t t' : Text} {as : List Attribute} (h : Spelled ending as t)
    (ht : Reflowed t t') (hend : ending'.head? = some '/' → ending.head? = some '/') :
    ∃ as', Spelled ending' as' t' ∧ as'.map Attribute.collapse = as.map Attribute.collapse := by
  induction h generalizing t' with
  | nil =>
    obtain rfl := ht.eq_nil
    exact ⟨[], .nil, rfl⟩
  | @cons a as t u ha has ih =>
    obtain ⟨c, hc, hb⟩ := ha.ends.2
    obtain ⟨v, u', rfl, hv, hu⟩ := ht.split (firm_of_getLast hc hb u)
    obtain ⟨as', has', hcollapse⟩ := ih hu
    have hslash : (u' ++ ending').head? = some '/' → (u ++ ending).head? = some '/' := by
      intro hd
      rcases has'.head? with rfl | ⟨d, hd', hb⟩
      · rw [hu.symm.eq_nil]
        exact hend hd
      · rw [List.head?_append, Option.mem_def.1 hd'] at hd
        cases hd
        exact absurd hb (by decide)
    obtain ⟨a', ha', hca⟩ := ha.reflow hv hslash
    exact ⟨a' :: as', .cons ha' has', by rw [List.map_cons, List.map_cons, hca, hcollapse]⟩

end Attributes

theorem Text.IsPlainName.solid {name : Text} (h : name.IsPlainName) : name.Solid :=
  fun c hc => not_blank_of_plain (h.plain c hc)

theorem OpeningTag.bracket_solid (b : Bool) : Text.Solid (bracket b) := by
  cases b <;> decide

namespace OpeningTag

theorem Spelled.reflow {tag : OpeningTag} {as : List Attribute} {t t' : Text} (h : tag.Spelled as t)
    (ht : Reflowed t t') : ∃ tag' as', Spelled tag' as' t' ∧ tag'.name = tag.name ∧
      tag'.selfClosing = tag.selfClosing ∧ as'.map Attribute.collapse = as.map Attribute.collapse := by
  cases h with
  | @mk name attributeText gap as b hname hgap has =>
    have htext : '<' :: (name ++ attributeText ++ gap ++ bracket b) =
        ['<'] ++ (name ++ (attributeText ++ (gap ++ (bracket b ++ [])))) := by simp
    rw [htext] at ht
    obtain ⟨u, rfl, hu⟩ := ht.split_word (by decide)
    obtain ⟨v, rfl, hv⟩ := hu.split_word hname.solid
    have hfirm : Firm attributeText (gap ++ (bracket b ++ [])) := fun c hc _ _ => .inl (has.getLast? c hc)
    obtain ⟨attributeText', w, rfl, ha, hw⟩ := hv.split hfirm
    obtain ⟨gap', z, rfl, hgap', hg, hz⟩ := hw.split_gap hgap (bracket_solid b) (by cases b <;> simp [bracket])
    obtain rfl := hz.eq_nil
    have hslash : (gap' ++ bracket b).head? = some '/' → (gap ++ bracket b).head? = some '/' :=
      ((hg.append_right (bracket b)).head?_iff (by decide)).2
    obtain ⟨as', has', hcollapse⟩ := has.reflow ha hslash
    refine ⟨⟨name, attributeText', b⟩, as', ?_, rfl, rfl, hcollapse⟩
    have hspelled := Spelled.mk hname hgap' has'
    simpa using hspelled

end OpeningTag

theorem ClosingTag.Spelled.reflow {name t t' : Text} (h : Spelled name t) (ht : Reflowed t t') :
    Spelled name t' := by
  cases h with
  | @mk gap hname hgap =>
    have htext : '<' :: '/' :: (name ++ gap ++ ['>']) = ['<', '/'] ++ (name ++ (gap ++ (['>'] ++ []))) := by simp
    rw [htext] at ht
    obtain ⟨u, rfl, hu⟩ := ht.split_word (by decide)
    obtain ⟨v, rfl, hv⟩ := hu.split_word hname.solid
    obtain ⟨gap', z, rfl, hgap', -, hz⟩ := hv.split_gap hgap (by decide) (by simp)
    obtain rfl := hz.eq_nil
    have hspelled := Spelled.mk hname hgap'
    simpa using hspelled

theorem Text.contains_reflow {w a b : Text} (hw : w.Solid) (hne : w ≠ []) (h : Reflowed a b)
    (hc : Text.contains w a = false) : Text.contains w b = false := by
  rw [contains_eq_false_iff] at hc ⊢
  rintro u v rfl
  rw [List.append_assoc] at h
  obtain ⟨u', z, rfl, -, hz⟩ := h.symm.split (firm_solid_append hw hne u v)
  obtain ⟨v', rfl, -⟩ := hz.split_word hw
  exact hc u' v' (List.append_assoc ..).symm

/-- Reflowing makes no closing tag. -/
theorem ClosingTag.Free.reflow {name a b : Text} (hf : Free name a) (hname : ∀ c ∈ name, isPlainNameChar c = true)
    (h : Reflowed a b) : Free name b := by
  rintro u _ r ⟨w, gap, hw, hgap, rfl⟩ rfl
  have hclean := (hw.matches_of_plain hname).clean
  have htext : u ++ '<' :: '/' :: (w ++ gap ++ ['>']) ++ r =
      u ++ (['<', '/'] ++ (w ++ (gap ++ (['>'] ++ r)))) := by simp
  rw [htext] at h
  obtain ⟨u', x, rfl, -, hx⟩ := h.symm.split (firm_of_head rfl (by decide) u)
  obtain ⟨y, rfl, hy⟩ := hx.split_word (by decide)
  obtain ⟨z, rfl, hz⟩ := hy.split_word fun c hc => (hclean c hc).1
  obtain ⟨gap', r', rfl, hgap', -, -⟩ := hz.split_gap hgap (by decide) (by simp)
  exact hf u' _ r' ⟨w, gap', hw, hgap', rfl⟩ (by simp)

theorem Text.Bracketed.firm_right {t : Text} (h : t.Bracketed) (a u : Text) : Firm a (t ++ u) :=
  firm_of_head (h.head? u) (by decide) a

theorem Text.Bracketed.firm_last {t : Text} (h : t.Bracketed) (a : Text) : Firm a t := by
  simpa using h.firm_right a []

theorem Text.Bracketed.firm_left {t : Text} (h : t.Bracketed) (u : Text) : Firm t u :=
  firm_of_getLast (by simpa using h.getLast? []) (by decide) u

theorem OpeningTag.Spelled.bracketed {tag : OpeningTag} {as : List Attribute} {t : Text} (h : tag.Spelled as t) :
    t.Bracketed := by
  cases h with
  | @mk name attributeText gap as b =>
    cases b
    · exact ⟨name ++ attributeText ++ gap, by simp [bracket]⟩
    · exact ⟨name ++ attributeText ++ gap ++ ['/'], by simp [bracket]⟩

theorem ClosingTag.Spelled.bracketed {name t : Text} (h : Spelled name t) : t.Bracketed := by
  cases h with
  | @mk gap => exact ⟨'/' :: (name ++ gap), by simp⟩

theorem OpeningTag.Spelled.plain_lower {tag : OpeningTag} {as : List Attribute} {t : Text} (h : tag.Spelled as t) :
    ∀ c ∈ Text.lower tag.name, isPlainNameChar c = true := by
  cases h with
  | mk hname => exact Text.plain_lower hname.plain

namespace Template

theorem Plain.reflow {t t' : Text} (h : Plain t) (ht : Reflowed t t') : Plain t' := by
  intro c hc
  have hmem {d : Char} (hd : isBlank d = false) (hne : d ∉ t) : c ≠ d := by
    rintro rfl
    exact hne ((ht.mem_iff hd).2 hc)
  exact ⟨hmem (by decide) fun hm => (h _ hm).1 rfl, hmem (by decide) fun hm => (h _ hm).2 rfl⟩

theorem Closed.firm {part : Text} (h : Closed part) (a u : Text) : Firm a (part ++ u) ∧ Firm part u := by
  cases h with
  | @comment c =>
    have hb : Text.Bracketed ("<!--".toList ++ c ++ "-->".toList) := ⟨"!--".toList ++ c ++ "--".toList, by simp⟩
    exact ⟨hb.firm_right a u, hb.firm_left u⟩
  | @interpolation e =>
    have hlast : (['{', '{'] ++ e ++ ['}', '}']).getLast? = some '}' := by
      rw [List.getLast?_append]
      rfl
    exact ⟨firm_of_head rfl (by decide) a, firm_of_getLast hlast (by decide) u⟩
  | leaf htag => exact ⟨htag.bracketed.firm_right a u, htag.bracketed.firm_left u⟩
  | @raw tag as t content name v htag _ _ _ hclose =>
    have hb := htag.bracketed.append content hclose.bracketed
    exact ⟨hb.firm_right a u, hb.firm_left u⟩

theorem Closed.reflow {part part' : Text} (h : Closed part) (hp : Reflowed part part') : Closed part' := by
  cases h with
  | @comment c hc =>
    rw [List.append_assoc] at hp
    obtain ⟨u, rfl, hu⟩ := hp.split_word (by decide)
    obtain ⟨c', v, rfl, hc', hv⟩ := hu.split (firm_of_head rfl (by decide) c)
    rw [hv.eq_of_solid (by decide), ← List.append_assoc]
    exact .comment (Text.contains_reflow (by decide) (by decide) hc' hc)
  | @interpolation e hend htemplate =>
    rw [List.append_assoc] at hp
    obtain ⟨u, rfl, hu⟩ := hp.split_word (by decide)
    obtain ⟨e', v, rfl, he, hv⟩ := hu.split (firm_of_head rfl (by decide) e)
    rw [hv.eq_of_solid (by decide), ← List.append_assoc]
    exact .interpolation (Text.contains_reflow (by decide) (by decide) he hend)
      (Text.contains_reflow (by decide) (by decide) he htemplate)
  | leaf htag hleaf =>
    obtain ⟨tag', as', htag', hname, hclosed, -⟩ := htag.reflow hp
    exact .leaf htag' (by rwa [hname, hclosed])
  | @raw tag as t content name u htag hopen hraw hcontent hclose hname =>
    rw [List.append_assoc] at hp
    obtain ⟨t', v, rfl, ht, hv⟩ := hp.split (htag.bracketed.firm_left _)
    obtain ⟨content', u', rfl, hc, hu⟩ := hv.split (hclose.bracketed.firm_last content)
    obtain ⟨tag', as', htag', hn, hs, -⟩ := htag.reflow ht
    rw [← List.append_assoc]
    rw [← hn] at hraw hcontent hname
    rw [← hs] at hopen
    exact .raw htag' hopen hraw (hcontent.reflow htag'.plain_lower hc) (hclose.reflow hu) hname

/-- Reflowing keeps the nesting of a template. -/
theorem Nested.reflow {t t' : Text} (h : Nested t) (ht : Reflowed t t') : Nested t' := by
  -- the parts are cut off from the front, each beside a bracket
  induction h generalizing t' with
  | plain hp => exact .plain (hp.reflow ht)
  | @closed t part u hp hpart _ ih =>
    obtain ⟨a, b, rfl, ha, hb⟩ := ht.split (hpart.firm t u).1
    obtain ⟨part', u', rfl, hpart', hu⟩ := hb.split (hpart.firm [] u).2
    exact .closed (hp.reflow ha) (hpart.reflow hpart') (ih hu)
  | @element t v content name w u tag as hp htag hopen hvoid hraw _ hclose hname _ ihcontent ihu =>
    simp only [List.append_assoc] at ht
    obtain ⟨a, b, rfl, ha, hb⟩ := ht.split (htag.bracketed.firm_right t _)
    obtain ⟨v', c, rfl, hv, hc⟩ := hb.split (htag.bracketed.firm_left _)
    obtain ⟨content', d, rfl, hcontent, hd⟩ := hc.split (hclose.bracketed.firm_right content u)
    obtain ⟨w', u', rfl, hw, hu⟩ := hd.split (hclose.bracketed.firm_left u)
    obtain ⟨tag', as', htag', hn, hs, -⟩ := htag.reflow hv
    rw [← hn] at hvoid hraw hname
    rw [← hs] at hopen
    have helement := Nested.element (hp.reflow ha) htag' hopen hvoid hraw (ihcontent hcontent) (hclose.reflow hw)
      hname (ihu hu)
    simpa only [List.append_assoc] using helement

end Template

end ComponentFormat
