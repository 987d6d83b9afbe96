import ComponentFormat.Proofs.Segmentation

/-! # Offsets and positions

Every offset of a document is on one line: the last one that starts up to it. The line and the column of an offset lead
back to it, unless it is inside a terminator of two characters, and the offset of a line and a column leads back to
these, the column moved to the nearer end of the line (`Document.positions_offsets`).
-/
namespace ComponentFormat

namespace Document
open Text (Seam)
variable {d : Document} {o n : Nat} {e : Extent}

/-- The offset is between the carriage return and the line feed of one terminator. -/
def InTerminator (d : Document) (o : Nat) : Prop :=
  ∃ a b, d.text = a ++ '\r' :: '\n' :: b ∧ o = a.length + 1

/-- The offset is on the line `n`, which runs over the extent: it does not come before this line, and comes before the
next one. -/
structure On (d : Document) (o n : Nat) (e : Extent) : Prop where
  extent : d.extent? n = some e
  start_le : e.start ≤ o
  lt_next : ∀ next, d.extent? (n + 1) = some next → o < next.start

theorem lt_lineCount_of_extent? (h : d.extent? n = some e) : n < d.lineCount := by
  by_contra hle
  rw [extent?_eq_none (Nat.le_of_not_lt hle)] at h
  cases h

theorem stop_lt_next {next : Extent} (h : d.extent? n = some e) (hnext : d.extent? (n + 1) = some next) :
    e.stop < next.start := by
  have hn := lt_lineCount_of_extent? hnext
  have hlt : n < d.lines.ended.length := Nat.lt_of_succ_lt_succ hn
  have hending : d.lines.ending n = (d.lines.ended[n]).2.text := by simp [Lines.ending, Lines.terminators, hlt]
  have hpos := Lines.one_le_length_text (d.lines.ended[n]).2
  rw [extent?_eq (Nat.lt_of_succ_lt hn)] at h
  rw [extent?_eq hn] at hnext
  cases h
  cases hnext
  rw [Text.gather_succ (Nat.zero_le n), Lines.row, hending]
  simp only [List.length_append]
  omega

theorem start_mono {m : Nat} {a b : Extent} (hle : m ≤ n) (ha : d.extent? m = some a) (hb : d.extent? n = some b) :
    a.start ≤ b.start := by
  rcases Nat.lt_or_eq_of_le hle with hlt | rfl
  · exact Nat.le_trans (extent?_bounds ha).1 (stop_le_start ha hb hlt)
  · rw [ha] at hb
    cases hb
    exact Nat.le_refl _

theorem on_of_le_stop (h : d.extent? n = some e) (hstart : e.start ≤ o) (hstop : o ≤ e.stop) : d.On o n e :=
  ⟨h, hstart, fun _ hnext => Nat.lt_of_le_of_lt hstop (stop_lt_next h hnext)⟩

namespace On

theorem place_eq (h : d.On o n e) : d.place o = (n, o - e.start) := by
  have hn := lt_lineCount_of_extent? h.extent
  have hle : n ≤ d.lines.ended.length := Nat.le_of_lt_succ hn
  have hstart : e.start = (Lines.endedText (d.lines.ended.take n)).length := by
    have hextent := h.extent
    rw [extent?_eq hn] at hextent
    cases hextent
    rw [Lines.endedText_take _ hle]
  have hnext : ∀ p ∈ (d.lines.ended.drop n).head?,
      o < 0 + (Lines.endedText (d.lines.ended.take n)).length + p.1.length + p.2.text.length := by
    intro p hp
    rw [List.head?_drop] at hp
    obtain ⟨hlt, rfl⟩ := List.getElem?_eq_some_iff.1 hp
    have hbefore := h.lt_next _ (extent?_eq (Nat.succ_lt_succ hlt))
    rw [← Lines.endedText_take _ hlt, List.take_succ_eq_append_getElem hlt] at hbefore
    simp only [Lines.endedText, List.flatMap_append, List.flatMap_singleton, List.length_append] at hbefore ⊢
    omega
  have htake := Lines.takeWhile_starts 0 o (d.lines.ended.take n) (d.lines.ended.drop n) d.lines.last
    (by simpa [← hstart] using h.start_le) hnext
  rw [List.take_append_drop] at htake
  simp only [place, Lines.extents, htake, Lines.getLast_starts, List.length_map, Lines.length_extentsFrom,
    List.length_take_of_le hle, Nat.zero_add, ← hstart, Nat.add_sub_cancel]

theorem positionAt_eq (h : d.On o n e) (ho : o ≤ d.length) : d.positionAt o = .ok (n, o - e.start) := by
  rw [positionAt, if_pos (by omega), Int.toNat_natCast, h.place_eq]

theorem lex {o' n' : Nat} {e' : Extent} (h : d.On o n e) (h' : d.On o' n' e') (hlt : o < o') :
    Prod.Lex (· < ·) (· < ·) (n, o - e.start) (n', o' - e'.start) := by
  have hstart := h.start_le
  rcases Nat.lt_trichotomy n n' with hn | rfl | hn
  · exact .left _ _ hn
  · obtain rfl : e = e' := Option.some.inj (h.extent.symm.trans h'.extent)
    exact .right _ (by omega)
  · obtain ⟨next, hnext⟩ := exists_extent? (Nat.lt_of_le_of_lt hn (lt_lineCount_of_extent? h.extent))
    have hbefore := h'.lt_next next hnext
    have hmono := start_mono hn hnext h.extent
    omega

end On

theorem on_of_seam {a b : Text} (ht : d.text = a ++ b) (h : Seam a b) : ∃ n e, d.On a.length n e ∧ a.length ≤ e.stop :=
  ⟨_, _, on_of_le_stop (extent?_append ht h) (Nat.sub_le ..) (Nat.le_add_right ..), Nat.le_add_right ..⟩

theorem InTerminator.on (h : d.InTerminator o) : ∃ n e, d.On o n e ∧ o = e.stop + 1 := by
  obtain ⟨a, b, ht, rfl⟩ := h
  have hfront : Seam a ('\r' :: '\n' :: b) := Text.seam_of_head rfl (by decide)
  have hbehind : Seam (a ++ ['\r', '\n']) b := Text.seam_of_getLast (c := '\n') (by simp) (by decide)
  have hbreak : Text.firstLine ('\r' :: '\n' :: b) = [] := by simp [Text.firstLine, Lines.ofText_crlf, Lines.breakWith]
  have hline := extent?_append ht hfront
  rw [hbreak] at hline
  have hnext := extent?_append (a := a ++ ['\r', '\n']) (by rw [ht]; simp) hbehind
  have hlast : (a ++ ['\r', '\n']).lastLine = [] := by
    rw [Text.lastLine_append_cons (by decide)]
    rfl
  rw [Text.breaks_append (Text.seam_of_head (c := '\r') rfl (by decide)), hlast] at hnext
  refine ⟨_, _, ⟨hline, Nat.le_trans (Nat.sub_le ..) (Nat.le_succ _), fun next h => ?_⟩, rfl⟩
  rw [show a.breaks + 1 = a.breaks + Text.breaks ['\r', '\n'] from rfl, hnext] at h
  cases h
  simp

theorem inTerminator_of_not_seam {a b : Text} (ht : d.text = a ++ b) (h : ¬Seam a b) : d.InTerminator a.length := by
  obtain ⟨hlast, hhead⟩ := Classical.not_not.1 h
  obtain ⟨a, rfl⟩ := List.getLast?_eq_some_iff.1 hlast
  obtain ⟨b, rfl⟩ := List.head?_eq_some_iff.1 hhead
  exact ⟨a, b, by rw [ht]; simp, by simp⟩

/-- Every offset is on a line, and behind the end of this line only inside a terminator. -/
theorem exists_on (ho : o ≤ d.length) :
    ∃ n e, d.On o n e ∧ (d.InTerminator o → o = e.stop + 1) ∧ (¬d.InTerminator o → o ≤ e.stop) := by
  by_cases hin : d.InTerminator o
  · obtain ⟨n, e, hon, hstop⟩ := hin.on
    exact ⟨n, e, hon, fun _ => hstop, fun hout => absurd hin hout⟩
  · have ht : d.text = d.text.take o ++ d.text.drop o := (List.take_append_drop ..).symm
    have hlen : (d.text.take o).length = o := List.length_take_of_le ho
    have hseam : Seam (d.text.take o) (d.text.drop o) := by
      by_contra h
      exact hin (hlen ▸ inTerminator_of_not_seam ht h)
    obtain ⟨n, e, hon, hstop⟩ := on_of_seam ht hseam
    rw [hlen] at hon hstop
    exact ⟨n, e, hon, fun h => absurd h hin, fun _ => hstop⟩

theorem offsetAt_of_extent? (h : d.extent? n = some e) (column : Int) :
    d.offsetAt n column = .ok (min (e.start + column.toNat) e.stop) := by
  have hn : ¬(n : Int) < 0 := by omega
  simp [offsetAt, extent, hn, h, Except.map]

/-- Each offset within the text has a line and a column and no other offset has. They lead back to it, or to the end of
the line where the offset is inside the terminator of this line. A line and a column have an offset that leads back to
them, a column outside the line being moved to its nearer end. Later offsets have later lines, or later columns on the
same line. -/
theorem positions_offsets (d : Document) :
    (∀ o : Nat, o ≤ d.length → ∃ line column offset : Nat, d.positionAt o = .ok (line, column) ∧
      d.offsetAt line column = .ok offset ∧ (d.InTerminator o → offset + 1 = o) ∧ (¬d.InTerminator o → offset = o)) ∧
    (∀ o : Int, ¬(0 ≤ o ∧ o ≤ d.length) → d.positionAt o = .error (.offset o)) ∧
    (∀ line : Nat, line < d.lineCount → ∀ column : Int, ∃ (text : Text) (offset : Nat), d.lineText line = .ok text ∧
      d.offsetAt line column = .ok offset ∧
      d.positionAt offset = .ok (line, (min (max column 0) text.length).toNat)) ∧
    ∀ o o' : Nat, o < o' → o' ≤ d.length → ∃ p q, d.positionAt o = .ok p ∧ d.positionAt o' = .ok q ∧
      Prod.Lex (· < ·) (· < ·) p q := by
  refine ⟨fun o ho => ?_, fun o ho => if_neg ho, fun line hline column => ?_, fun o o' hlt ho' => ?_⟩
  · obtain ⟨n, e, hon, hin, hout⟩ := exists_on ho
    have hstart := hon.start_le
    refine ⟨n, o - e.start, _, hon.positionAt_eq ho, offsetAt_of_extent? hon.extent _, fun h => ?_, fun h => ?_⟩
    · have := hin h
      omega
    · have := hout h
      omega
  · have hextent := extent?_eq hline
    generalize he : Extent.mk _ _ = e at hextent
    have hlen : e.stop = e.start + (d.lines.line line).length := by rw [← he, List.length_append]
    have hbound := extent?_bounds hextent
    have hon : d.On (min (e.start + column.toNat) e.stop) line e :=
      on_of_le_stop hextent (by omega) (Nat.min_le_right ..)
    have hle : min (e.start + column.toNat) e.stop ≤ d.length := Nat.le_trans (Nat.min_le_right ..) hbound.2
    refine ⟨_, _, (lineText_eq line).trans (if_pos (by omega)), offsetAt_of_extent? hextent column, ?_⟩
    rw [hon.positionAt_eq hle, Int.toNat_natCast]
    congr 2
    omega
  · obtain ⟨n, e, hon, -⟩ := exists_on (Nat.le_of_lt (Nat.lt_of_lt_of_le hlt ho'))
    obtain ⟨n', e', hon', -⟩ := exists_on ho'
    exact ⟨_, _, hon.positionAt_eq (Nat.le_of_lt (Nat.lt_of_lt_of_le hlt ho')), hon'.positionAt_eq ho',
      hon.lex hon' hlt⟩

example : (ofText "a\r\nb".toList).place 2 = (0, 2) ∧ (ofText "a\r\nb".toList).place 3 = (1, 0) := by decide +kernel

end Document

end ComponentFormat
