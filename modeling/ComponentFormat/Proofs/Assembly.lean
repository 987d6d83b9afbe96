import ComponentFormat.Proofs.Slots
import ComponentFormat.Proofs.Tiling

/-! # Components put together from blocks and gaps

A component is assembled from gaps without an opening bracket and from blocks: a self-closing tag, raw content without
a closing tag of its own, or an HTML template with well-nested content. Reading the assembled text gives back exactly
these blocks at their offsets, sorted by their names, and those to format become the regions in their order if they
are on lines of their own (`Assembly.read_back`).
-/
namespace ComponentFormat

namespace Block

/-- How a block is written. -/
inductive Spelled : Block → Prop
  | selfClosing {tag : OpeningTag} {as : List Attribute} {t : Text} (htag : tag.Spelled as t)
      (hclosed : tag.selfClosing = true) :
      Spelled ⟨Text.lower tag.name, Attributes.ofList as, t, [], []⟩
  | raw {tag : OpeningTag} {as : List Attribute} {t content name u : Text} (htag : tag.Spelled as t)
      (hopen : tag.selfClosing = false)
      (hraw : ¬Html (Text.lower tag.name) (Attributes.ofList as))
      (hcontent : ClosingTag.Free (Text.lower tag.name) content) (hclose : ClosingTag.Spelled name u)
      (hname : Text.lower name = Text.lower tag.name) :
      Spelled ⟨Text.lower tag.name, Attributes.ofList as, t, content, u⟩
  | html {tag : OpeningTag} {as : List Attribute} {t content name u : Text} (htag : tag.Spelled as t)
      (hopen : tag.selfClosing = false)
      (hhtml : Html (Text.lower tag.name) (Attributes.ofList as))
      (hcontent : Template.Nested content) (hclose : ClosingTag.Spelled name u)
      (hname : Text.lower name = Text.lower tag.name) :
      Spelled ⟨Text.lower tag.name, Attributes.ofList as, t, content, u⟩

theorem read_eq {tag : OpeningTag} {opening content closing rest : Text}
    (h : findEnd tag (opening ++ (content ++ (closing ++ rest))) (content ++ (closing ++ rest)) =
      .ok ⟨closing ++ rest, rest⟩) :
    read tag (opening ++ (content ++ (closing ++ rest))) (content ++ (closing ++ rest)) =
      .ok (⟨Text.lower tag.name, Attributes.ofText tag.attributeText, opening, content, closing⟩, rest) := by
  simp only [read, h, Except.map, Text.upTo_append_self]

theorem Spelled.exists_tag {b : Block} (h : b.Spelled) : ∃ tag as, OpeningTag.Spelled tag as b.opening ∧
    ∀ rest, read tag (b.opening ++ (b.content ++ (b.closing ++ rest))) (b.content ++ (b.closing ++ rest)) =
      .ok (b, rest) := by
  cases h with
  | @selfClosing tag as t htag hclosed =>
    refine ⟨tag, as, htag, fun rest => ?_⟩
    rw [read_eq (by simp [findEnd, hclosed]), htag.attributes]
  | @raw tag as t content name u htag hopen hraw hcontent hclose hname =>
    refine ⟨tag, as, htag, fun rest => ?_⟩
    have hfind := EndTag.find?_spelled (hname ▸ hcontent) hclose rest
    rw [hname] at hfind
    rw [← isHtmlTemplate_iff, Bool.not_eq_true] at hraw
    have hend : findEnd tag (t ++ (content ++ (u ++ rest))) (content ++ (u ++ rest)) =
        .ok ⟨u ++ rest, rest⟩ := by
      simp [findEnd, hopen, htag.attributes, hraw, hfind]
    rw [read_eq hend, htag.attributes]
  | @html tag as t content name u htag hopen hhtml hcontent hclose hname =>
    refine ⟨tag, as, htag, fun rest => ?_⟩
    have htemplate := hname.trans hhtml.1
    rw [← isHtmlTemplate_iff] at hhtml
    have hend : findEnd tag (t ++ (content ++ (u ++ rest))) (content ++ (u ++ rest)) =
        .ok ⟨u ++ rest, rest⟩ := by
      simp [findEnd, hopen, htag.attributes, hhtml, Template.findEnd_eq hcontent hclose htemplate]
    rw [read_eq hend, htag.attributes]

end Block

theorem Block.Spelled.stands {b : Block} (h : b.Spelled) (rest : Text) : b.Stands rest := by
  obtain ⟨tag, as, htag, hread⟩ := h.exists_tag
  have htext : b.source ++ rest = b.opening ++ (b.content ++ (b.closing ++ rest)) := by simp [Block.source]
  refine ⟨tag, b.content ++ (b.closing ++ rest), ?_, ?_⟩
  · rw [htext, OpeningTag.read?_spelled htag]
  · rw [htext, hread]

/-- Blocks, each with the gap behind it. -/
abbrev Row := List (Block × Text)

namespace Row

def text (row : Row) : Text := row.flatMap fun q => q.1.source ++ q.2

def placed (start : Nat) : Row → List Placed
  | [] => []
  | (b, g) :: more => ⟨start, b⟩ :: placed (start + b.length + g.length) more

@[simp] theorem text_cons (b : Block) (g : Text) (more : Row) :
    text ((b, g) :: more) = b.source ++ (g ++ text more) := by
  simp [text]

theorem blocks_placed (start : Nat) (row : Row) : (placed start row).map Placed.block = row.map Prod.fst := by
  induction row generalizing start with
  | nil => rfl
  | cons q more ih => rw [placed, List.map_cons, List.map_cons, ih]

theorem tiled {row : Row} (hgaps : ∀ q ∈ row, '<' ∉ q.2) (hblocks : ∀ q ∈ row, q.1.Spelled) (start : Nat) :
    Tiled start (placed start row) row.text := by
  induction row generalizing start with
  | nil => exact .last .nil
  | cons q more ih =>
    obtain ⟨b, g⟩ := q
    obtain ⟨hg, hgaps⟩ := List.forall_mem_cons.1 hgaps
    obtain ⟨hb, hblocks⟩ := List.forall_mem_cons.1 hblocks
    rw [text_cons, placed]
    exact .block (g := []) .nil (hb.stands _) (.gap (.of_not_mem hg _) (ih hgaps hblocks _))

end Row

namespace Component

/-- The blocks to format with the kinds of their regions, in the order of the text. -/
def sourceOrder (c : Component) : List (RegionKind × Placed) :=
  c.blocks.filterMap fun p => p.block.slot.kind?.map (·, p)

theorem perm_sourceOrder (c : Component) : c.formattable.Perm c.sourceOrder := by
  obtain ⟨blocks⟩ := c
  induction blocks with
  | nil => exact .nil
  | cons p more ih =>
    simp only [formattable, sourceOrder, inSlot, styles, List.append_assoc] at ih ⊢
    have hsome {k : RegionKind} (hk : p.block.slot.kind? = some k) :
        (p :: more).filterMap (fun p => p.block.slot.kind?.map (·, p)) =
          (k, p) :: more.filterMap fun p => p.block.slot.kind?.map (·, p) :=
      List.filterMap_cons_some (by rw [hk]; rfl)
    rcases hs : p.block.slot with (_ | _ | _) | _ | _
    · rw [hsome (k := .markup) (by rw [hs]; rfl)]
      simpa [hs] using ih.cons (RegionKind.markup, p)
    · rw [hsome (k := .script) (by rw [hs]; rfl)]
      simpa [hs] using List.perm_middle.trans (ih.cons (RegionKind.script, p))
    · rw [hsome (k := .scriptSetup) (by rw [hs]; rfl)]
      rw [← List.append_assoc] at ih
      simpa [hs] using List.perm_middle.trans (ih.cons (RegionKind.scriptSetup, p))
    · rw [hsome (k := .style) (by rw [hs]; rfl)]
      rw [← List.append_assoc, ← List.append_assoc] at ih
      simpa [hs] using List.perm_middle.trans (ih.cons (RegionKind.style, p))
    · rw [List.filterMap_cons_none (by rw [hs]; rfl)]
      simpa [hs] using ih

end Component

def Placed.lines (d : Document) (p : Placed) : LineSpan :=
  LineSpan.covering (d.place p.start).1 (d.place p.stop).1

namespace Placed
variable {d : Document} {p q : Placed} {x y x' y' : Text}

theorem Sits.exists_between (hp : p.Sits x y d.text) (hq : q.Sits x' y' d.text) (h : p.stop ≤ q.start) :
    ∃ m, x' = x ++ p.block.source ++ m ∧ y = m ++ (q.block.source ++ y') := by
  have htext := hp.text.symm.trans hq.text
  rw [Region.stop_eq hp, hq.start] at h
  have htext : x ++ p.block.source ++ y = x' ++ (q.block.source ++ y') := by
    rw [htext, List.append_assoc]
  exact Text.exists_of_append_eq_of_le htext h

theorem Sits.first_le (hp : p.Sits x y d.text) (hq : q.Sits x' y' d.text) (h : p.stop ≤ q.start) :
    (p.lines d).first ≤ (q.lines d).first := by
  obtain ⟨m, hx, -⟩ := hp.exists_between hq h
  have hfp : (p.lines d).first = x.breaks := Region.ofBlock_first .style hp
  have hfq : (q.lines d).first = x'.breaks := Region.ofBlock_first .style hq
  have hseam : Text.Seam (x ++ p.block.source) m :=
    Text.seam_of_getLast (hp.delimited.source.getLast? x) (by decide)
  rw [hfp, hfq, hx, Text.breaks_append hseam, Text.breaks_append (Region.seam_source hp), Nat.add_assoc]
  exact Nat.le_add_right ..

end Placed

/-- The region is that of the block: of its kind, on its lines, with its language, and with its content at its offsets
from the first of these lines. -/
structure Placed.Becomes (d : Document) (p : Placed) (r : Region) : Prop where
  kind : p.block.OfKind r.kind
  span : r.span = p.lines d
  lang : r.lang = p.block.lang
  content : r.content = p.block.content
  offsets : ∃ origin : Nat, d.lineStart r.span.first = .ok origin ∧
    r.contentStart = some (p.contentStart - origin : Int) ∧ r.contentEnd = some (p.contentEnd - origin : Int)
  sound : r.Sound d

theorem Region.becomes_ofBlock {d : Document} {p : Placed} {x y : Text} {kind : RegionKind}
    (hkind : p.block.OfKind kind) (h : p.Sits x y d.text) : p.Becomes d (ofBlock d kind p) where
  kind := hkind
  span := rfl
  lang := rfl
  content := rfl
  offsets := ⟨_, lineStart_first kind h, rfl, rfl⟩
  sound := sound_ofBlock kind h

theorem forall₂_filter_filterMap {α β : Type} {R : α → β → Prop} {p : α → Bool} {f : α → Option β} {l : List α}
    (hnone : ∀ a ∈ l, p a = false → f a = none) (hsome : ∀ a ∈ l, p a = true → ∃ b, f a = some b ∧ R a b) :
    List.Forall₂ R (l.filter p) (l.filterMap f) := by
  induction l with
  | nil => exact .nil
  | cons a l ih =>
    obtain ⟨hn, hnone⟩ := List.forall_mem_cons.1 hnone
    obtain ⟨hs, hsome⟩ := List.forall_mem_cons.1 hsome
    cases hp : p a with
    | false =>
      rw [List.filter_cons_of_neg (by simp [hp]), List.filterMap_cons_none (hn hp)]
      exact ih hnone hsome
    | true =>
      obtain ⟨b, hb, hr⟩ := hs hp
      rw [List.filter_cons_of_pos hp, List.filterMap_cons_some hb]
      exact .cons hr (ih hnone hsome)

theorem Selection.apart_eq_self {α : Type} {span : α → LineSpan} {last : Option α} {items : List α}
    (hlast : ∀ k ∈ last, ∀ a ∈ items, (span k).last < (span a).first)
    (h : items.Pairwise fun a b => (span a).last < (span b).first) : apart span last items = items := by
  induction items generalizing last with
  | nil => rfl
  | cons a more ih =>
    obtain ⟨ha, hmore⟩ := List.pairwise_cons.1 h
    have hkeep : last.any (fun k => (span k).overlaps (span a)) = false := by
      cases last with
      | none => rfl
      | some k => exact overlaps_eq_false (hlast k rfl a (List.mem_cons_self ..))
    rw [apart, hkeep, if_neg (by decide), ih (by simpa using ha) hmore]

namespace Extraction
variable {d : Document} {c : Component}

theorem pairwise_first (hc : Component.ofText d.text = .ok c) :
    c.blocks.Pairwise fun p q => (p.lines d).first ≤ (q.lines d).first :=
  (Component.pairwise_blocks hc).imp_of_mem fun {p q} hp hq hlt => by
    obtain ⟨x, y, hp⟩ := Component.sits_of_mem hc hp
    obtain ⟨x', y', hq⟩ := Component.sits_of_mem hc hq
    exact hp.first_le hq hlt

theorem pairwise_sourceOrder (hc : Component.ofText d.text = .ok c)
    (h : (c.blocks.filter (·.block.slot.kind?.isSome)).Pairwise fun p q =>
      (p.lines d).overlaps (q.lines d) = false) :
    c.sourceOrder.Pairwise fun a b =>
      (Region.ofBlock d a.1 a.2).span.last < (Region.ofBlock d b.1 b.2).span.first := by
  have hboth := ((pairwise_first hc).filter (·.block.slot.kind?.isSome)).and h
  rw [Component.sourceOrder, List.pairwise_filterMap]
  rw [List.pairwise_filter] at hboth
  refine hboth.imp ?_
  rintro p q hpq ⟨k, p'⟩ hp' ⟨l, q'⟩ hq'
  obtain ⟨_, hp, he⟩ := Option.map_eq_some_iff.1 hp'
  cases he
  obtain ⟨_, hq, he⟩ := Option.map_eq_some_iff.1 hq'
  cases he
  obtain ⟨hle, hover⟩ := hpq (by simp [hp]) (by simp [hq])
  exact Selection.last_lt_first hle hover

theorem regions_of_apart (hc : Component.ofText d.text = .ok c)
    (h : (c.blocks.filter (·.block.slot.kind?.isSome)).Pairwise fun p q =>
      (p.lines d).overlaps (q.lines d) = false) :
    (ofDocument d).regions =
      c.blocks.filterMap fun p => p.block.slot.kind?.map fun kind => Region.ofBlock d kind p := by
  have hsource := pairwise_sourceOrder hc h
  have hapart : c.sourceOrder.Pairwise fun a b =>
      (Region.ofBlock d a.1 a.2).span.first ≠ (Region.ofBlock d b.1 b.2).span.first := by
    refine hsource.imp fun {a b} hlt => ?_
    have := (Region.ofBlock d a.1 a.2).span.first_le_last
    omega
  have : Std.Symm fun a b : RegionKind × Placed =>
      (Region.ofBlock d a.1 a.2).span.first ≠ (Region.ofBlock d b.1 b.2).span.first := ⟨fun _ _ h => h.symm⟩
  have hqueue : queue d c = c.sourceOrder := by
    have hperm : (queue d c).Perm c.sourceOrder := (Sorted.perm_ofList _ _).trans c.perm_sourceOrder
    refine List.Perm.eq_of_pairwise (fun a b ha hb hab hba => ?_) (Sorted.pairwise_ofList _ _)
      (hsource.imp fun {a b} hlt => ?_) hperm
    · by_contra hne
      exact hapart.forall (hperm.mem_iff.1 ha) hb hne (Nat.le_antisymm hab hba)
    · exact Nat.le_trans (Region.ofBlock d a.1 a.2).span.first_le_last (Nat.le_of_lt hlt)
  rw [regions_ofDocument hc, kept, hqueue, Selection.apart_eq_self (by simp) hsource, Component.sourceOrder,
    List.map_filterMap]
  simp [Function.comp_def]

/-- Blocks on lines of their own all become regions, in the order of the text. -/
theorem becomes_of_apart (hc : Component.ofText d.text = .ok c)
    (h : (c.blocks.filter (·.block.name ∈ Block.formattedNames)).Pairwise fun p q =>
      (p.lines d).overlaps (q.lines d) = false) :
    List.Forall₂ (Placed.Becomes d) (c.blocks.filter (·.block.name ∈ Block.formattedNames)) (ofDocument d).regions := by
  have hnames : c.blocks.filter (·.block.slot.kind?.isSome) = c.blocks.filter (·.block.name ∈ Block.formattedNames) :=
    List.filter_congr fun p _ => by rw [Bool.eq_iff_iff, Block.isSome_kind?_iff, decide_eq_true_iff]
  rw [← hnames] at h ⊢
  rw [regions_of_apart hc h]
  refine forall₂_filter_filterMap (fun p _ hp => ?_) (fun p hp hsome => ?_)
  · rw [Option.isSome_eq_false_iff, Option.isNone_iff_eq_none] at hp
    rw [hp, Option.map_none]
  · obtain ⟨kind, hkind⟩ := Option.isSome_iff_exists.1 hsome
    obtain ⟨x, y, hsits⟩ := Component.sits_of_mem hc hp
    rw [hkind, Option.map_some]
    exact ⟨_, rfl, Region.becomes_ofBlock (Block.kind?_eq_some_iff.1 hkind) hsits⟩

end Extraction

structure Assembly where
  lead : Text
  row : Row
  lead_plain : '<' ∉ lead
  gaps_plain : ∀ q ∈ row, '<' ∉ q.2
  spelled : ∀ q ∈ row, q.1.Spelled
  single : ∀ kind : Singleton, (row.filter (·.1.slot = .single kind)).length ≤ 1

namespace Assembly

def text (a : Assembly) : Text := a.lead ++ a.row.text

def placed (a : Assembly) : List Placed := a.row.placed a.lead.length

theorem tiled (a : Assembly) : Tiled 0 a.placed a.text :=
  .gap (.of_not_mem a.lead_plain _) (Nat.zero_add _ ▸ Row.tiled a.gaps_plain a.spelled _)

theorem ofText_text (a : Assembly) : Component.ofText a.text = .ok ⟨a.placed⟩ := by
  refine Component.ofText_eq_ok_iff.2 ⟨a.tiled, fun kind => ?_⟩
  have hcount := congrArg (List.countP fun b => b.slot = .single kind) (a.row.blocks_placed a.lead.length)
  rw [List.countP_map, List.countP_map, List.countP_eq_length_filter, List.countP_eq_length_filter] at hcount
  exact Nat.le_trans (Nat.le_of_eq hcount) (a.single kind)

/-- Reading an assembled text gives its blocks, each at its offset, sorted by their names. When no two of the blocks to
format share a line there is exactly one region for each of them, in their order. -/
theorem read_back (a : Assembly) (path : String) :
    Component.ofText a.text = .ok ⟨a.placed⟩ ∧
    Component.Sorts ⟨a.placed⟩ a.placed ∧
    (∀ p ∈ a.placed, ∃ x y, p.Sits x y a.text) ∧
    (a.placed.Pairwise fun p q => p.stop ≤ q.start) ∧
    ((a.placed.filter (·.block.name ∈ Block.formattedNames)).Pairwise
        (fun p q => (p.lines ⟨path, a.text⟩).overlaps (q.lines ⟨path, a.text⟩) = false) →
      List.Forall₂ (Placed.Becomes ⟨path, a.text⟩) (a.placed.filter (·.block.name ∈ Block.formattedNames))
        (Extraction.ofDocument ⟨path, a.text⟩).regions) := by
  have hread := ofText_text a
  refine ⟨hread, Component.sorts_blocks hread, fun p hp => Component.sits_of_mem hread hp,
    Component.pairwise_blocks hread, fun h => ?_⟩
  have hd : Component.ofText (Document.mk path a.text).text = .ok ⟨a.placed⟩ := hread
  exact Extraction.becomes_of_apart hd h

end Assembly

end ComponentFormat
