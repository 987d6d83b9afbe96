import ComponentFormat.Proofs.Delimiters
import ComponentFormat.Proofs.Positions
import ComponentFormat.Proofs.Selection

/-! # The region of a block

A block that stands between `x` and `y` in its document gets the lines from the last one of `x` to the first one of
`y`, and its content is found at the offsets of its tags on those lines. Nothing that is looked up on the way can be
missing (`Region.build_eq`).
-/
namespace ComponentFormat

theorem mapError_ok {ε ε' α : Type} (f : ε → ε') (a : α) : (Except.ok a).mapError f = .ok a := rfl

theorem mapError_eq_ok_iff {ε ε' α : Type} {f : ε → ε'} {x : Except ε α} {a : α} :
    x.mapError f = .ok a ↔ x = .ok a := by
  cases x with
  | error e => exact iff_of_false nofun nofun
  | ok b => rw [mapError_ok, Except.ok.injEq, Except.ok.injEq]

theorem bind_eq_ok_iff {ε α β : Type} {x : Except ε α} {f : α → Except ε β} {b : β} :
    (x >>= f) = .ok b ↔ ∃ a, x = .ok a ∧ f a = .ok b := by
  cases x <;> simp [bind, Except.bind]

namespace Document
variable {d : Document}

theorem lineStart_of_extent? {n : Nat} {e : Extent} (h : d.extent? n = some e) :
    d.lineStart n = .ok e.start := by
  have hn : ¬(n : Int) < 0 := by omega
  simp [lineStart, extent, hn, h, Except.map]

theorem lineEnd_of_extent? {n : Nat} {e : Extent} (h : d.extent? n = some e) :
    d.lineEnd n = .ok e.stop := by
  have hn : ¬(n : Int) < 0 := by omega
  simp [lineEnd, extent, hn, h, Except.map]

theorem wholeLines_of_extent? {m n : Nat} {a b : Extent} (hle : m ≤ n) (ha : d.extent? m = some a)
    (hb : d.extent? n = some b) : d.wholeLines m n = .ok (d.cut a.start b.stop) := by
  have hn : ¬(n : Int) < m := by omega
  simp [wholeLines, hn, lineStart_of_extent? ha, lineEnd_of_extent? hb, bind, Except.bind, pure,
    Except.pure]

theorem cut_append {a b c : Text} (h : d.text = a ++ b ++ c) : d.cut a.length (a.length + b.length) = b := by
  simp [cut, h]

end Document

theorem LineSpan.eq_of_ends {s t : LineSpan} (hfirst : s.first = t.first) (hlast : s.last = t.last) : s = t := by
  cases s
  cases t
  cases hfirst
  cases hlast
  rfl

/-- What can be missing when a region is made: its lines are no span, or the document has no such lines. -/
inductive RegionError where
  | span (e : SpanError)
  | position (e : PositionError)

/-- No terminator straddles the ends of the content of a block. -/
theorem Block.Delimited.seams {b : Block} (h : b.Delimited) :
    Text.Seam b.opening b.content ∧ Text.Seam (b.opening ++ b.content) b.closing := by
  refine ⟨Text.seam_of_getLast (by simpa using h.opening.getLast? []) (by decide), ?_⟩
  rcases h.closing with hc | ⟨-, hn⟩
  · exact Text.seam_of_head (by simpa using hc.head? []) (by decide)
  · rw [hn]
    exact Text.seam_nil_right _

namespace Region

/-- The region of a block with every step that may fail. Its lines and offsets are those that the record of the block
tells, where lines are counted from one. -/
def build (d : Document) (kind : RegionKind) (p : Placed) : Except RegionError Region := do
  let inside := p.loc (Locator.ofText d.text)
  let whole := p.tagLoc (Locator.ofText d.text)
  let span ← (LineSpan.ofInts ((whole.start.line : Int) - 1) ((whole.stop.line : Int) - 1)).mapError .span
  let origin ← (d.lineStart span.first).mapError .position
  let full ← (d.wholeLines span.first span.last).mapError .position
  return { kind, span, full
           lang := p.block.lang
           content := p.block.content
           contentStart := some (inside.start.offset - origin)
           contentEnd := some (inside.stop.offset - origin)
           terminator := d.terminator.text }

section
variable {d : Document} {p : Placed} {x y : Text} (kind : RegionKind) (h : p.Sits x y d.text)
include h

theorem place_start : d.place p.start = (x.breaks, x.lastLine.length) := by
  rw [h.start]
  refine Document.place_append (b := p.block.source ++ y) (by rw [h.text, List.append_assoc]) ?_
  exact Text.seam_of_head (h.delimited.source.head? y) (by decide)

theorem seam_source : Text.Seam x p.block.source :=
  Text.seam_of_head (by simpa using h.delimited.source.head? []) (by decide)

theorem seam_behind : Text.Seam (x ++ p.block.source) y :=
  Text.seam_of_getLast (h.delimited.source.getLast? x) (by decide)

theorem stop_eq : p.stop = (x ++ p.block.source).length := by
  rw [Placed.length_eq, h.start, List.length_append, Block.length_source]

theorem place_stop : (d.place p.stop).1 = x.breaks + p.block.source.breaks := by
  rw [stop_eq h, Document.place_append h.text (seam_behind h), Text.breaks_append (seam_source h)]

theorem ofBlock_first : (ofBlock d kind p).span.first = x.breaks := by
  simp [ofBlock, LineSpan.covering, place_start h]

theorem ofBlock_last : (ofBlock d kind p).span.last = x.breaks + p.block.source.breaks := by
  simp [ofBlock, LineSpan.covering, place_start h, place_stop h]

theorem extent?_first : d.extent? (ofBlock d kind p).span.first =
    some ⟨x.length - x.lastLine.length, x.length + (p.block.source ++ y).firstLine.length⟩ := by
  rw [ofBlock_first kind h]
  refine Document.extent?_append (by rw [h.text, List.append_assoc]) ?_
  exact Text.seam_of_head (h.delimited.source.head? y) (by decide)

theorem extent?_last : d.extent? (ofBlock d kind p).span.last =
    some ⟨(x ++ p.block.source).length - (x ++ p.block.source).lastLine.length,
      (x ++ p.block.source).length + y.firstLine.length⟩ := by
  rw [ofBlock_last kind h, ← Text.breaks_append (seam_source h)]
  exact Document.extent?_append h.text (seam_behind h)

theorem startOf_first : d.startOf (ofBlock d kind p).span.first = x.length - x.lastLine.length := by
  rw [Document.startOf, extent?_first kind h]
  rfl

theorem exists_around : ∃ head tail,
    d.text = head ++ (x.lastLine ++ p.block.source ++ y.firstLine) ++ tail ∧
      x = head ++ x.lastLine ∧ y = y.firstLine ++ tail ∧
      (∀ c ∈ head.getLast?, isBreak c = true) ∧ ∀ c ∈ tail.head?, isBreak c = true := by
  obtain ⟨head, hx, hhead⟩ := x.exists_append_lastLine
  obtain ⟨tail, hy, htail⟩ := y.exists_firstLine_append
  refine ⟨head, tail, ?_, hx, hy, hhead, htail⟩
  calc d.text = head ++ x.lastLine ++ p.block.source ++ (y.firstLine ++ tail) := by rw [h.text, ← hx, ← hy]
    _ = _ := by simp only [List.append_assoc]

/-- The lines of the region: the block with what stands on its first line in front and on its last line behind. -/
theorem ofBlock_full : (ofBlock d kind p).full = x.lastLine ++ p.block.source ++ y.firstLine := by
  obtain ⟨head, tail, ht, hx, -⟩ := exists_around h
  have hlen := congrArg List.length hx
  rw [List.length_append] at hlen
  show d.linesText (ofBlock d kind p).span.first (ofBlock d kind p).span.last = _
  rw [Document.linesText, extent?_first kind h, extent?_last kind h]
  refine Eq.trans ?_ (Document.cut_append ht)
  dsimp only
  congr 1
  · omega
  · simp only [List.length_append]
    omega

theorem wholeLines_span : d.wholeLines (ofBlock d kind p).span.first (ofBlock d kind p).span.last =
    .ok (ofBlock d kind p).full := by
  rw [Document.wholeLines_of_extent? (ofBlock d kind p).span.first_le_last (extent?_first kind h)
    (extent?_last kind h)]
  show _ = Except.ok (d.linesText (ofBlock d kind p).span.first (ofBlock d kind p).span.last)
  rw [Document.linesText, extent?_first kind h, extent?_last kind h]

theorem ofBlock_contentStart : (ofBlock d kind p).contentStart =
    some ((x.lastLine ++ p.block.opening).length : Int) := by
  have hlen := Text.length_endedText x
  have horigin := startOf_first kind h
  simp only [ofBlock] at horigin ⊢
  rw [horigin, Placed.contentStart, h.start, List.length_append]
  congr 1
  omega

theorem ofBlock_contentEnd : (ofBlock d kind p).contentEnd =
    some ((x.lastLine ++ p.block.opening ++ p.block.content).length : Int) := by
  have hlen := Text.length_endedText x
  have horigin := startOf_first kind h
  simp only [ofBlock] at horigin ⊢
  rw [horigin, Placed.contentEnd, Placed.contentStart, h.start, List.length_append, List.length_append]
  congr 1
  omega

/-- The lines that the record of the block tells are those of the region. -/
theorem ofInts_tagLoc : LineSpan.ofInts (((p.tagLoc (Locator.ofText d.text)).start.line : Int) - 1)
    (((p.tagLoc (Locator.ofText d.text)).stop.line : Int) - 1) = .ok (ofBlock d kind p).span := by
  have hle : (d.place p.start).1 ≤ (d.place p.stop).1 := by
    rw [place_stop h, place_start h]
    exact Nat.le_add_right ..
  simp [Placed.tagLoc, Locator.position_place, LineSpan.ofInts, ofBlock, LineSpan.covering, hle]

theorem lineStart_first : d.lineStart (ofBlock d kind p).span.first =
    .ok (d.startOf (ofBlock d kind p).span.first) := by
  rw [startOf_first kind h]
  exact Document.lineStart_of_extent? (extent?_first kind h)

theorem build_eq : build d kind p = .ok (ofBlock d kind p) := by
  simp only [build, ofInts_tagLoc kind h, lineStart_first kind h, wholeLines_span kind h, mapError_ok,
    bind, Except.bind, pure, Except.pure]
  rfl

end

/-- The content of the region stands between `before` and `after` on its lines, where the offsets say. -/
structure Frames (r : Region) (before after : Text) : Prop where
  full : r.full = before ++ r.content ++ after
  start : r.contentStart = some (before.length : Int)
  stop : r.contentEnd = some ((before ++ r.content).length : Int)

theorem ofBlock_frames {d : Document} {p : Placed} {x y : Text} (kind : RegionKind) (h : p.Sits x y d.text) :
    (ofBlock d kind p).Frames (x.lastLine ++ p.block.opening) (p.block.closing ++ y.firstLine) where
  full := by
    rw [ofBlock_full kind h]
    simp [ofBlock, Block.source]
  start := ofBlock_contentStart kind h
  stop := ofBlock_contentEnd kind h

/-- Blocks that are alike, on lines that are alike, become regions that are alike but for where they stand. -/
theorem ofBlock_eq_with_span {d d' : Document} {p p' : Placed} {x y x' y' : Text} (kind : RegionKind)
    (h : p.Sits x y d.text) (h' : p'.Sits x' y' d'.text) (hblock : p'.block = p.block)
    (hfirst : x'.lastLine = x.lastLine) (hlast : y'.firstLine = y.firstLine) (hends : d'.terminator = d.terminator) :
    ofBlock d' kind p' = { ofBlock d kind p with span := (ofBlock d' kind p').span } := by
  have hfull : (ofBlock d' kind p').full = (ofBlock d kind p).full := by
    rw [ofBlock_full kind h, ofBlock_full kind h', hblock, hfirst, hlast]
  have hstart : (ofBlock d' kind p').contentStart = (ofBlock d kind p).contentStart := by
    rw [ofBlock_contentStart kind h, ofBlock_contentStart kind h', hblock, hfirst]
  have hend : (ofBlock d' kind p').contentEnd = (ofBlock d kind p).contentEnd := by
    rw [ofBlock_contentEnd kind h, ofBlock_contentEnd kind h', hblock, hfirst]
  have hlang : (ofBlock d' kind p').lang = (ofBlock d kind p).lang := congrArg Block.lang hblock
  have hcontent : (ofBlock d' kind p').content = (ofBlock d kind p).content := congrArg Block.content hblock
  have hterminator : (ofBlock d' kind p').terminator = (ofBlock d kind p).terminator := congrArg Terminator.text hends
  dsimp only
  rw [← hfull, ← hstart, ← hend, ← hlang, ← hcontent, ← hterminator]
  rfl

end Region

theorem Text.slice_of_le {t : Text} {m n : Nat} (hm : m ≤ t.length) (hn : n ≤ t.length) :
    Text.slice t m n = (t.drop m).take (n - m) := by
  have clamp_eq {k : Nat} (hk : k ≤ t.length) : Text.slice.clamp t k = k := by
    rw [Text.slice.clamp, if_neg (by omega), Int.toNat_natCast, Nat.min_eq_left hk]
  rw [Text.slice, clamp_eq hm, clamp_eq hn]

namespace Region.Frames
variable {r : Region} {before after : Text}

theorem length_le (h : r.Frames before after) :
    before.length ≤ (before ++ r.content).length ∧ (before ++ r.content).length ≤ r.full.length := by
  rw [h.full]
  simp

theorem slice_content (h : r.Frames before after) :
    Text.slice r.full before.length (before ++ r.content).length = r.content := by
  rw [Text.slice_of_le (Nat.le_trans h.length_le.1 h.length_le.2) h.length_le.2, h.full]
  simp

theorem splice_eq (h : r.Frames before after) (formatted : Text) :
    r.splice formatted = .ok (before ++ (r.terminator ++ formatted) ++ after) := by
  have hfront : Text.slice r.full 0 before.length = before := by
    have := Text.slice_of_le (Nat.zero_le r.full.length) (Nat.le_trans h.length_le.1 h.length_le.2)
    rw [Int.natCast_zero] at this
    rw [this, h.full]
    simp
  have hback : Text.slice r.full (before ++ r.content).length r.full.length = after := by
    rw [Text.slice_of_le h.length_le.2 (Nat.le_refl _), List.take_of_length_le (by simp), h.full,
      List.drop_left]
  simp only [splice, offsets?, h.start, h.stop, h.slice_content, hfront, hback, if_true]

end Region.Frames

end ComponentFormat
