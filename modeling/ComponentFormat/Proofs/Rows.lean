import ComponentFormat.Proofs.Reflow

/-! # Reflowed rows

A reflowed row of blocks has as many blocks of the same names, each in the same slot, with reflowed attributes and
contents.
-/
namespace ComponentFormat
open Text (Reflowed Firm)

namespace Keyed
variable {κ α β : Type} [BEq κ]

def mapValues (f : α → β) (entries : List (κ × α)) : List (κ × β) := entries.map fun p => (p.1, f p.2)

theorem mapValues_put (f : α → β) (key : κ) (value : α) (entries : List (κ × α)) :
    mapValues f (put key value entries) = put key (f value) (mapValues f entries) := by
  induction entries with
  | nil => rfl
  | cons p more ih =>
    simp only [mapValues, put, List.map_cons] at ih ⊢
    split
    · rfl
    · rw [List.map_cons, ih]

theorem mapValues_ofPairs (f : α → β) (pairs : List (κ × α)) :
    mapValues f (ofPairs pairs) = ofPairs (mapValues f pairs) := by
  suffices h : ∀ entries,
      mapValues f (override entries pairs) = override (mapValues f entries) (mapValues f pairs) from h []
  induction pairs with
  | nil => exact fun _ => rfl
  | cons p more ih =>
    intro entries
    rw [override, List.foldl_cons, ← override, ih, mapValues_put]
    rfl

theorem get?_mapValues (f : α → β) (key : κ) (entries : List (κ × α)) :
    get? key (mapValues f entries) = (get? key entries).map f := by
  induction entries with
  | nil => rfl
  | cons p more ih =>
    simp only [mapValues, get?, List.map_cons] at ih ⊢
    split
    · rfl
    · exact ih

end Keyed

namespace Attributes

def collapse (as : Attributes) : Attributes := Keyed.mapValues (Option.map Text.collapse) as

theorem collapse_ofList (as : List Attribute) :
    collapse (ofList as) = ofList (as.map Attribute.collapse) := by
  rw [collapse, ofList, Keyed.mapValues_ofPairs]
  simp [Keyed.mapValues, ofList, Attribute.collapse, Function.comp_def]

theorem value?_collapse (name : String) (as : Attributes) :
    value? name (collapse as) = (value? name as).map (Option.map Text.collapse) :=
  Keyed.get?_mapValues ..

theorem isSet_collapse (name : String) (as : Attributes) : isSet name (collapse as) = isSet name as := by
  unfold isSet
  rw [value?_collapse]
  rcases value? name as with _ | _ | t
  · rfl
  · rfl
  · cases t with
    | nil => rfl
    | cons c t =>
      have hne := (Text.Reflowed.refl (c :: t)).ne_nil (by simp)
      cases hc : Text.collapse (c :: t) with
      | nil =>
        have : Reflowed [] (c :: t) := hc.symm
        exact absurd this.eq_nil hne
      | cons d u => simp [hc]

end Attributes

namespace Block

theorem html_collapse (name : Text) (as : Attributes) : Html name as.collapse ↔ Html name as := by
  have hsame (t : Text) : Text.collapse t = "html".toList ↔ t = "html".toList := by
    constructor
    · intro h
      have h : Reflowed "html".toList t := Eq.trans (by decide) h.symm
      exact h.eq_of_solid (by decide)
    · rintro rfl
      decide
  rw [Html, Html, Attributes.value?_collapse]
  rcases as.value? "lang" with _ | _ | t
  · rfl
  · rfl
  · simp only [Option.map_some, Option.some.injEq, hsame, reduceCtorEq]

/-- The second block is a reflowed version of the first. -/
structure Reflows (b b' : Block) : Prop where
  name : b'.name = b.name
  attributes : b'.attributes.collapse = b.attributes.collapse
  opening : Reflowed b.opening b'.opening
  content : Reflowed b.content b'.content
  closing : Reflowed b.closing b'.closing

theorem Reflows.slot {b b' : Block} (h : b.Reflows b') : b'.slot = b.slot := by
  have hset : b'.isSetup = b.isSetup := by
    rw [isSetup, isSetup, ← Attributes.isSet_collapse, h.attributes, Attributes.isSet_collapse]
  rw [Block.slot, Block.slot, h.name, hset]

theorem Reflows.source {b b' : Block} (h : b.Reflows b') : Reflowed b.source b'.source :=
  (h.opening.append h.content).append h.closing

theorem Spelled.reflow {b : Block} {t : Text} (h : b.Spelled) (ht : Reflowed b.source t) :
    ∃ b', Spelled b' ∧ b'.source = t ∧ b.Reflows b' := by
  have hof {as as' : List Attribute} (hc : as'.map Attribute.collapse = as.map Attribute.collapse) :
      (Attributes.ofList as').collapse = (Attributes.ofList as).collapse := by
    rw [Attributes.collapse_ofList, Attributes.collapse_ofList, hc]
  have hkind {name : Text} {as as' : List Attribute} (hc : as'.map Attribute.collapse = as.map Attribute.collapse) :
      Html name (Attributes.ofList as') ↔ Html name (Attributes.ofList as) := by
    rw [← html_collapse, hof hc, html_collapse]
  cases h with
  | @selfClosing tag as opening htag hclosed =>
    simp only [source, List.append_nil] at ht
    obtain ⟨tag', as', htag', hn, hs, hc⟩ := htag.reflow ht
    refine ⟨_, .selfClosing htag' (hs.trans hclosed), by simp [source], ?_, hof hc, ht, .refl _, .refl _⟩
    rw [hn]
  | @raw tag as opening content name closing htag hopen hraw hcontent hclose hname =>
    simp only [source, List.append_assoc] at ht
    obtain ⟨opening', u, rfl, ho, hu⟩ := ht.split (htag.bracketed.firm_left _)
    obtain ⟨content', closing', rfl, hcon, hcl⟩ := hu.split (hclose.bracketed.firm_last content)
    obtain ⟨tag', as', htag', hn, hs, hc⟩ := htag.reflow ho
    rw [← hn] at hraw hcontent hname
    refine ⟨_, .raw htag' (hs.trans hopen) (mt (hkind hc).1 hraw) (hcontent.reflow htag'.plain_lower hcon)
      (hclose.reflow hcl) hname, by simp [source], ?_, hof hc, ho, hcon, hcl⟩
    rw [hn]
  | @html tag as opening content name closing htag hopen hhtml hcontent hclose hname =>
    simp only [source, List.append_assoc] at ht
    obtain ⟨opening', u, rfl, ho, hu⟩ := ht.split (htag.bracketed.firm_left _)
    obtain ⟨content', closing', rfl, hcon, hcl⟩ := hu.split (hclose.bracketed.firm_last content)
    obtain ⟨tag', as', htag', hn, hs, hc⟩ := htag.reflow ho
    rw [← hn] at hhtml hname
    refine ⟨_, .html htag' (hs.trans hopen) ((hkind hc).2 hhtml) (hcontent.reflow hcon) (hclose.reflow hcl) hname,
      by simp [source], ?_, hof hc, ho, hcon, hcl⟩
    rw [hn]

theorem Spelled.bracketed {b : Block} (h : b.Spelled) : b.source.Bracketed := by
  cases h with
  | selfClosing htag => simpa [source] using htag.bracketed
  | raw htag _ _ _ hclose => exact htag.bracketed.append _ hclose.bracketed
  | html htag _ _ _ hclose => exact htag.bracketed.append _ hclose.bracketed

end Block

namespace Row

/-- Gaps and blocks in turn are reflowed versions of one another, a break behind the last gap. -/
inductive Reflows : Text → Row → Text → Row → Prop
  | last {g g' : Text} (hgap : Reflowed (g ++ ['\n']) (g' ++ ['\n'])) : Reflows g [] g' []
  | block {g g' h h' : Text} {b b' : Block} {more more' : Row} (hgap : Reflowed g g') (hblock : b.Reflows b')
      (hmore : Reflows h more h' more') : Reflows g ((b, h) :: more) g' ((b', h') :: more')

theorem reflow {lead t : Text} {row : Row} (hspelled : ∀ q ∈ row, q.1.Spelled)
    (h : Reflowed (lead ++ (row.text ++ ['\n'])) (t ++ ['\n'])) : ∃ lead' row', t = lead' ++ text row' ∧
      Reflows lead row lead' row' ∧ ∀ q ∈ row', q.1.Spelled := by
  induction row generalizing lead t with
  | nil => exact ⟨t, [], by simp [text], .last h, by simp⟩
  | cons q more ih =>
    obtain ⟨b, g⟩ := q
    obtain ⟨hb, hmore⟩ := List.forall_mem_cons.1 hspelled
    rw [text_cons, List.append_assoc, List.append_assoc] at h
    obtain ⟨lead', u, hu, hlead, h⟩ := h.split (hb.bracketed.firm_right lead _)
    obtain ⟨s, v, rfl, hs, hv⟩ := h.split (hb.bracketed.firm_left _)
    obtain ⟨b', hb', rfl, hbb⟩ := hb.reflow hs
    -- what is left holds the line feed behind the text
    rcases List.eq_nil_or_concat v with rfl | ⟨v, c, rfl⟩
    · exact absurd rfl (hv.ne_nil (by simp))
    rw [List.concat_eq_append, ← List.append_assoc, ← List.append_assoc] at hu
    obtain ⟨rfl, hc⟩ := List.append_inj' hu rfl
    rw [List.concat_eq_append, ← hc] at hv
    obtain ⟨g', more', rfl, hr, hall⟩ := ih hmore hv
    exact ⟨lead', (b', g') :: more', by rw [text_cons, List.append_assoc], .block hlead hbb hr,
      List.forall_mem_cons.2 ⟨hb', hall⟩⟩

namespace Reflows
variable {lead lead' : Text} {row row' : Row}

theorem slots (h : Reflows lead row lead' row') : row'.map (·.1.slot) = row.map (·.1.slot) := by
  induction h with
  | last => rfl
  | block _ hb _ ih => rw [List.map_cons, List.map_cons, hb.slot, ih]

/-- No bracket comes up in a gap. -/
theorem plain (h : Reflows lead row lead' row') (hlead : '<' ∉ lead) (hgaps : ∀ q ∈ row, '<' ∉ q.2) :
    '<' ∉ lead' ∧ ∀ q ∈ row', '<' ∉ q.2 := by
  induction h with
  | last hgap =>
    have := hgap.mem_iff (c := '<') (by decide)
    simp only [List.mem_append, List.mem_singleton, Char.reduceEq, or_false] at this
    exact ⟨mt this.2 hlead, by simp⟩
  | block hgap _ _ ih =>
    obtain ⟨hh, hgaps⟩ := List.forall_mem_cons.1 hgaps
    obtain ⟨hh', hgaps'⟩ := ih hh hgaps
    exact ⟨mt (hgap.mem_iff (by decide)).2 hlead, List.forall_mem_cons.2 ⟨hh', hgaps'⟩⟩

end Reflows

end Row

end ComponentFormat
