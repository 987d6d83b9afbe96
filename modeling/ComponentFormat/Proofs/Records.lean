import ComponentFormat.Proofs.TagGrammar
import ComponentFormat.Proofs.Tiling

/-! # What the record of a block says

The record of a block is where the block stands, in positions of the document counted from one: its content and source
are the text between its offsets, its opening tag has its name and attributes, and it ends with the first closing tag of
its name unless it is an HTML template or closes itself (`Component.faithful_of_mem`).
-/
namespace ComponentFormat

namespace Block

/-- What is read as a block is written like one: an opening tag of its name with its attributes, and for its end the
closing tag of its name, the first one unless the block is an HTML template. -/
theorem written_of_read {tag : OpeningTag} {t inside rest : Text} {b : Block}
    (hread : OpeningTag.read? t = some (tag, inside)) (h : read tag t inside = .ok (b, rest)) :
    Text.lower tag.name = b.name ∧ (∃ as, tag.Written as b.opening ∧ Attributes.ofList as = b.attributes) ∧
      if tag.selfClosing then b.content = [] ∧ b.closing = []
      else ClosingTag.Closes b.name b.closing ∧ (isHtmlTemplate b.name b.attributes = false →
        ∀ u v, b.content ++ (b.closing ++ rest) = u ++ v → u.length < b.content.length →
          ClosingTag.readNamed? b.name v = none) := by
  obtain ⟨as, opening, hwritten, rfl⟩ := OpeningTag.read?_eq_some_iff.1 hread
  obtain ⟨e, he, rfl, rfl⟩ := exists_of_read h
  refine ⟨rfl, ⟨as, (Text.upTo_append_self opening inside).symm ▸ hwritten, hwritten.attributes.symm⟩, ?_⟩
  dsimp only
  unfold findEnd at he
  dsimp only at he
  split at he
  · next hclosed =>
    cases he
    rw [if_pos hclosed]
    exact ⟨by simp [Text.upTo], by simp [Text.upTo]⟩
  · next hopen =>
    rw [if_neg hopen]
    split at he
    · next hhtml =>
      have hsound := Template.findEnd_sound (opening ++ inside) (.nil (.nil inside))
      rw [he] at hsound
      obtain ⟨w, hclose, hlower⟩ := hsound.2.exists_closing
      obtain ⟨closing, hcloses, hstart⟩ := ClosingTag.closes_of_read? hclose hlower (by decide)
      have hname := (isHtmlTemplate_iff.1 hhtml).1
      rw [hstart, Text.upTo_append_self, hname]
      refine ⟨hcloses, fun hraw => ?_⟩
      rw [hname] at hhtml
      rw [hhtml] at hraw
      cases hraw
    · split at he
      · next e' hfind =>
        cases he
        obtain ⟨hend, content, hcontent, hfirst⟩ := EndTag.find?_eq_some hfind
        obtain ⟨closing, hcloses, hstart⟩ := ClosingTag.readNamed?_iff.1 hend
        rw [hcontent, Text.upTo_append_self, hstart, Text.upTo_append_self, ← hstart, ← hcontent]
        exact ⟨hcloses, fun _ => hfirst⟩
      · cases he

end Block

theorem Tiled.exists_stands {pos : Nat} {blocks : List Placed} {t : Text} (h : Tiled pos blocks t) {p : Placed}
    (hp : p ∈ blocks) : ∃ x y, t = x ++ (p.block.source ++ y) ∧ p.start = pos + x.length ∧ p.block.Stands y := by
  induction h with
  | last => cases hp
  | @block pos blocks b g rest _ hb _ ih =>
    rcases List.mem_cons.1 hp with rfl | hp
    · exact ⟨g, rest, rfl, rfl, hb⟩
    · obtain ⟨x, y, rfl, hstart, hstands⟩ := ih hp
      refine ⟨g ++ (b.source ++ x), y, by simp, ?_, hstands⟩
      rw [hstart, List.length_append, List.length_append, Block.length_source]
      omega

def Position.Tells (d : Document) (offset : Nat) (q : Position) : Prop :=
  ∃ line column, d.positionAt offset = .ok (line, column) ∧ q = ⟨offset, line + 1, column + 1⟩

namespace Placed

/-- The record of a block says where the block stands in the document and how it is written there. -/
structure Faithful (d : Document) (p : Placed) : Prop where
  start_lt : p.start < p.contentStart
  contentStart_le : p.contentStart ≤ p.contentEnd
  contentEnd_le : p.contentEnd ≤ p.stop
  stop_le : p.stop ≤ d.length
  content : p.block.content = d.cut p.contentStart p.contentEnd
  loc_source : (p.loc (Locator.ofText d.text)).source = d.cut p.contentStart p.contentEnd
  tagLoc_source : (p.tagLoc (Locator.ofText d.text)).source = d.cut p.start p.stop
  tags : ∃ tag as, OpeningTag.Written tag as (d.cut p.start p.contentStart) ∧ Text.lower tag.name = p.block.name ∧
    Attributes.ofList as = p.block.attributes ∧
    if tag.selfClosing then p.contentEnd = p.contentStart ∧ d.cut p.contentEnd p.stop = []
    else ClosingTag.Closes p.block.name (d.cut p.contentEnd p.stop) ∧
      (Block.isHtmlTemplate p.block.name p.block.attributes = false → ∀ i j, p.contentStart ≤ i → i < p.contentEnd →
        ¬ClosingTag.Closes p.block.name (d.cut i j))
  loc_start : (p.loc (Locator.ofText d.text)).start.Tells d p.contentStart
  loc_stop : (p.loc (Locator.ofText d.text)).stop.Tells d p.contentEnd
  tagLoc_start : (p.tagLoc (Locator.ofText d.text)).start.Tells d p.start
  tagLoc_stop : (p.tagLoc (Locator.ofText d.text)).stop.Tells d p.stop

end Placed

theorem OpeningTag.Written.ne_nil {tag : OpeningTag} {as : List Attribute} {t : Text} (h : tag.Written as t) :
    t ≠ [] := by
  cases h
  exact List.cons_ne_nil _ _

theorem Document.drop_eq_cut_append (d : Document) {i j : Nat} :
    d.text.drop i = d.cut i j ++ d.text.drop (i + (j - i)) := by
  rw [cut, ← List.drop_drop, List.take_append_drop]

namespace Placed

section
variable {d : Document} {p : Placed} {x y : Text} (htext : d.text = x ++ (p.block.source ++ y))
  (hstart : p.start = x.length)
include htext hstart

theorem cut_opening : d.cut p.start p.contentStart = p.block.opening := by
  rw [contentStart, hstart]
  exact Document.cut_append (c := p.block.content ++ (p.block.closing ++ y)) (by rw [htext]; simp [Block.source])

theorem cut_content : d.cut p.contentStart p.contentEnd = p.block.content := by
  rw [contentEnd, contentStart, hstart, ← List.length_append]
  exact Document.cut_append (c := p.block.closing ++ y) (by rw [htext]; simp [Block.source])

theorem cut_closing : d.cut p.contentEnd p.stop = p.block.closing := by
  rw [stop, contentEnd, contentStart, hstart, ← List.length_append, ← List.length_append]
  exact Document.cut_append (c := y) (by rw [htext]; simp [Block.source])

theorem cut_source : d.cut p.start p.stop = p.block.source := by
  rw [length_eq, hstart, ← Block.length_source]
  exact Document.cut_append (c := y) (by rw [htext]; simp)

theorem stop_le_length : p.stop ≤ d.length := by
  rw [length_eq, hstart, Document.length, htext]
  simp

theorem drop_contentStart : d.text.drop p.contentStart = p.block.content ++ (p.block.closing ++ y) := by
  rw [contentStart, hstart, htext, ← List.length_append]
  simp [Block.source]

/-- A closing tag that starts within the content would have ended the block there. -/
theorem not_closes_cut (hfirst : ∀ u v, p.block.content ++ (p.block.closing ++ y) = u ++ v →
      u.length < p.block.content.length → ClosingTag.readNamed? p.block.name v = none)
    {i j : Nat} (hi : p.contentStart ≤ i) (hj : i < p.contentEnd) :
    ¬ClosingTag.Closes p.block.name (d.cut i j) := by
  intro hcloses
  have hdrop : d.text.drop i = (d.text.drop p.contentStart).drop (i - p.contentStart) := by
    rw [List.drop_drop, Nat.add_sub_cancel' hi]
  have hnone := hfirst ((d.text.drop p.contentStart).take (i - p.contentStart)) (d.text.drop i)
    (by rw [← drop_contentStart htext hstart, hdrop, List.take_append_drop])
    (by rw [List.length_take]; unfold contentEnd at hj; omega)
  rw [ClosingTag.readNamed?_iff.2 ⟨_, hcloses, d.drop_eq_cut_append⟩] at hnone
  cases hnone

end

end Placed

namespace Component

/-- The records of a component are faithful to its text. -/
theorem faithful_of_mem {t : Text} {c : Component} (path : String) (h : ofText t = .ok c) :
    ∀ p ∈ c.blocks, p.Faithful ⟨path, t⟩ := by
  intro p hp
  obtain ⟨x, y, ht, hstart, tag, inside, hread, hblock⟩ := (ofText_eq_ok_iff.1 h).1.exists_stands hp
  obtain ⟨hname, ⟨as, hwritten, hattributes⟩, hend⟩ := Block.written_of_read hread hblock
  rw [Nat.zero_add] at hstart
  generalize hd : (⟨path, t⟩ : Document) = d
  have htext : d.text = x ++ (p.block.source ++ y) := by rw [← hd, ht]
  have hopening := Placed.cut_opening htext hstart
  have hcontent := Placed.cut_content htext hstart
  have hclosing := Placed.cut_closing htext hstart
  have hstop := Placed.stop_le_length htext hstart
  have hlt : p.start < p.contentStart := Nat.lt_add_of_pos_right (List.length_pos_iff.2 hwritten.ne_nil)
  have hle : p.contentStart ≤ p.contentEnd := Nat.le_add_right ..
  have hle' : p.contentEnd ≤ p.stop := Nat.le_add_right ..
  refine ⟨hlt, hle, hle', hstop, hcontent.symm, hcontent.symm, (Placed.cut_source htext hstart).symm,
    ⟨tag, as, hopening ▸ hwritten, hname, hattributes, ?_⟩, Locator.position_eq d (by omega),
    Locator.position_eq d (by omega), Locator.position_eq d (by omega), Locator.position_eq d hstop⟩
  rw [hclosing]
  split at hend
  · next hclosed =>
    rw [if_pos hclosed, Placed.contentEnd, hend.1]
    exact ⟨rfl, hend.2⟩
  · next hopen =>
    rw [if_neg hopen]
    exact ⟨hend.1, fun hraw _ _ hi hj => Placed.not_closes_cut htext hstart (hend.2 hraw) hi hj⟩

/-- A template, a script and an empty block, with names in mixed case and two kinds of terminators. -/
def mixedCase : Text := "<Template>\r<b>x</B></TEMPLATE\n><script a='1'>y</Script ><x/>".toList

theorem faithful_of_mem_mixedCase :
    let c : Component := ⟨[
      ⟨0, ⟨"template".toList, [], "<Template>".toList, "\r<b>x</B>".toList, "</TEMPLATE\n>".toList⟩⟩,
      ⟨31, ⟨"script".toList, [("a".toList, some "1".toList)], "<script a='1'>".toList, "y".toList,
        "</Script >".toList⟩⟩,
      ⟨56, ⟨"x".toList, [], "<x/>".toList, [], []⟩⟩]⟩
    ofText mixedCase = .ok c ∧ ∀ p ∈ c.blocks, p.Faithful ⟨"", mixedCase⟩ := by
  intro c
  have h : ofText mixedCase = .ok c := ofText_of_toOption (by decide +kernel)
  exact ⟨h, faithful_of_mem "" h⟩

end Component

end ComponentFormat
