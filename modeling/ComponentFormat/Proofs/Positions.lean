import ComponentFormat.Component.Locator
import ComponentFormat.Proofs.Lines

/-! # Places and extents of a cut text

When the text of a document is cut in two, the cut stands on the line whose number is the count of terminators in
front of it. That line starts where the last line of the first part starts and ends where the first line of the
second part ends. The starts of lines that are taken off a text by themselves are those of its document, so both
count the same lines (`Locator.position_place`).
-/
namespace ComponentFormat

namespace Lines

/-- The lines that a terminator ends, with their terminators. -/
def endedText (ended : List (Text × Terminator)) : Text := ended.flatMap fun p => p.1 ++ p.2.text

theorem length_endedText_cons (line : Text) (e : Terminator) (more : List (Text × Terminator)) :
    (endedText ((line, e) :: more)).length = line.length + e.text.length + (endedText more).length := by
  simp [endedText, Nat.add_assoc]

theorem extentsFrom_getElem? (start : Nat) (pre post : List (Text × Terminator)) (last : Text) :
    (extentsFrom start (pre ++ post) last)[pre.length]? =
      (extentsFrom (start + (endedText pre).length) post last)[0]? := by
  induction pre generalizing start with
  | nil => simp [endedText]
  | cons p pre ih =>
    obtain ⟨line, e⟩ := p
    rw [length_endedText_cons]
    simpa [extentsFrom, Nat.add_assoc] using ih (start + line.length + e.text.length)

theorem one_le_length_text (e : Terminator) : 1 ≤ e.text.length := by
  cases e <;> simp [Terminator.text]

theorem takeWhile_starts (start offset : Nat) (pre post : List (Text × Terminator)) (last : Text)
    (hle : start + (endedText pre).length ≤ offset)
    (hlt : ∀ p ∈ post.head?, offset < start + (endedText pre).length + p.1.length + p.2.text.length) :
    ((extentsFrom start (pre ++ post) last).map Extent.start).takeWhile (· ≤ offset) =
      (extentsFrom start pre []).map Extent.start := by
  induction pre generalizing start with
  | nil =>
    have hle : start ≤ offset := by simpa [endedText] using hle
    cases post with
    | nil => simp [extentsFrom, hle]
    | cons p more =>
      obtain ⟨line, e⟩ := p
      have hlt : offset < start + line.length + e.text.length := by
        simpa [endedText] using hlt (line, e) (by simp)
      have hnext : ¬start + line.length + e.text.length ≤ offset := by omega
      cases more with
      | nil => simp [extentsFrom, hle, hnext]
      | cons q more => simp [extentsFrom, hle, hnext]
  | cons p pre ih =>
    obtain ⟨line, e⟩ := p
    rw [length_endedText_cons] at hle hlt
    have hs : start ≤ offset := by omega
    have := ih (start + line.length + e.text.length) (by omega) (fun p hp => by have := hlt p hp; omega)
    simp [extentsFrom, hs, this]

theorem length_extentsFrom (start : Nat) (ended : List (Text × Terminator)) (last : Text) :
    (extentsFrom start ended last).length = ended.length + 1 := by
  induction ended generalizing start with
  | nil => simp [extentsFrom]
  | cons p more ih => simp [extentsFrom, ih]

theorem extentsFrom_bounds (start : Nat) (ended : List (Text × Terminator)) (last : Text) :
    ∀ e ∈ extentsFrom start ended last,
      start ≤ e.start ∧ e.start ≤ e.stop ∧ e.stop ≤ start + (endedText ended).length + last.length := by
  induction ended generalizing start with
  | nil => simp [extentsFrom, endedText]
  | cons p more ih =>
    obtain ⟨line, e⟩ := p
    rw [length_endedText_cons]
    intro x hx
    rcases List.mem_cons.1 hx with rfl | hx
    · dsimp only
      omega
    · have := ih _ x hx
      omega

theorem pairwise_extentsFrom (start : Nat) (ended : List (Text × Terminator)) (last : Text) :
    (extentsFrom start ended last).Pairwise fun a b => a.stop ≤ b.start := by
  induction ended generalizing start with
  | nil => exact List.pairwise_singleton ..
  | cons p more ih =>
    obtain ⟨line, e⟩ := p
    refine List.pairwise_cons.2 ⟨fun b hb => ?_, ih _⟩
    have := (extentsFrom_bounds _ more last b hb).1
    dsimp only
    omega

theorem getLast_starts (start fallback : Nat) (ended : List (Text × Terminator)) :
    ((extentsFrom start ended []).map Extent.start).getLastD fallback = start + (endedText ended).length := by
  induction ended generalizing start fallback with
  | nil => simp [extentsFrom, endedText]
  | cons p more ih =>
    obtain ⟨line, e⟩ := p
    rw [length_endedText_cons]
    simp only [extentsFrom, List.map_cons, List.getLastD_cons, ih]
    omega

end Lines

namespace Text
open Lines (endedText)

theorem endedText_append_lastLine (t : Text) : endedText (Lines.ofText t).ended ++ t.lastLine = t :=
  Lines.toText_ofText t

theorem length_endedText (t : Text) :
    (endedText (Lines.ofText t).ended).length + t.lastLine.length = t.length := by
  have := congrArg List.length (endedText_append_lastLine t)
  rwa [List.length_append] at this

/-- The lines of a text that starts with `a`, the line of the seam taken apart. -/
theorem ended_append {a b : Text} (h : Seam a b) :
    ∃ post last, Lines.ofText (a ++ b) = ⟨(Lines.ofText a).ended ++ post, last⟩ ∧
      (∀ p ∈ post.head?, p.1 = a.lastLine ++ b.firstLine) ∧
      (post = [] → last = a.lastLine ++ b.firstLine) := by
  rw [Lines.ofText_append h]
  unfold Lines.append firstLine
  split
  · next hb => exact ⟨[], a.lastLine ++ (Lines.ofText b).last, by simp [lastLine], by simp, by simp⟩
  · next line e more hb => exact ⟨_, _, rfl, by simp [lastLine], by simp⟩

end Text

namespace Document
open Lines (endedText extentsFrom)
open Text (Seam)
variable {d : Document} {a b : Text}

theorem place_append (ht : d.text = a ++ b) (h : Seam a b) :
    d.place a.length = (a.breaks, a.lastLine.length) := by
  obtain ⟨post, last, hl, hhead, -⟩ := Text.ended_append h
  have hlen := Text.length_endedText a
  have htake := Lines.takeWhile_starts 0 a.length (Lines.ofText a).ended post last (by omega) (by
    intro p hp
    have hp1 := congrArg List.length (hhead p hp)
    have he := Lines.one_le_length_text p.2
    rw [List.length_append] at hp1
    omega)
  simp only [place, lines, ht, hl, Lines.extents]
  rw [htake, Lines.getLast_starts, List.length_map, Lines.length_extentsFrom]
  simp only [Text.breaks, Prod.mk.injEq]
  omega

/-- The line of a seam runs from the start of the last line in front to the end of the first line behind. -/
theorem extent?_append (ht : d.text = a ++ b) (h : Seam a b) :
    d.extent? a.breaks = some ⟨a.length - a.lastLine.length, a.length + b.firstLine.length⟩ := by
  obtain ⟨post, last, hl, hhead, hnil⟩ := Text.ended_append h
  have hlen := Text.length_endedText a
  simp only [extent?, lines, ht, hl, Lines.extents, Text.breaks]
  rw [Lines.extentsFrom_getElem?]
  cases post with
  | nil =>
    have := congrArg List.length (hnil rfl)
    rw [List.length_append] at this
    simp only [extentsFrom, List.getElem?_cons_zero, Option.some.injEq, Extent.mk.injEq]
    omega
  | cons p more =>
    have := congrArg List.length (hhead p rfl)
    rw [List.length_append] at this
    simp only [extentsFrom, List.getElem?_cons_zero, Option.some.injEq, Extent.mk.injEq]
    omega

theorem lineCount_eq (d : Document) : d.lineCount = d.text.breaks + 1 := rfl

end Document

namespace Locator

theorem starts_push (offset : Nat) (c : Char) (l : Lines) {starts : List Nat}
    (h : (Lines.extentsFrom (offset + 1) l.ended l.last).map Extent.start = (offset + 1) :: starts) :
    (Lines.extentsFrom offset (l.push c).ended (l.push c).last).map Extent.start = offset :: starts := by
  rcases l with ⟨_ | ⟨⟨line, e⟩, more⟩, last⟩
  · simpa [Lines.push, Lines.extentsFrom] using h
  · simpa [Lines.push, Lines.extentsFrom, Nat.add_assoc, Nat.add_comm 1] using h

theorem starts_breakWith (offset : Nat) (e : Terminator) (l : Lines) :
    (Lines.extentsFrom offset (l.breakWith e).ended (l.breakWith e).last).map Extent.start =
      offset :: (Lines.extentsFrom (offset + e.text.length) l.ended l.last).map Extent.start := rfl

theorem starts_extentsFrom (offset : Nat) (t : Text) :
    (Lines.extentsFrom offset (Lines.ofText t).ended (Lines.ofText t).last).map Extent.start =
      offset :: breaksFrom offset t := by
  fun_induction breaksFrom offset t with
  | case1 => rfl
  | case2 offset t ih => rw [Lines.ofText_crlf, starts_breakWith, ← ih]; rfl
  | case3 offset c t hne hc ih =>
    rcases hc with rfl | rfl
    · have hhead : t.head? ≠ some '\n' := fun h => by
        obtain ⟨u, rfl⟩ := List.head?_eq_some_iff.1 h
        exact hne u rfl rfl
      rw [Lines.ofText_cr hhead, starts_breakWith, ← ih]
      rfl
    · rw [Lines.ofText_lf, starts_breakWith, ← ih]
      rfl
  | case4 offset c t hne hc ih =>
    have hother : isBreak c = false := by simpa [isBreak, and_comm] using hc
    rw [Lines.ofText_other hother]
    exact starts_push offset c _ ih

theorem ofText_starts (d : Document) : (ofText d.text).starts = d.lines.extents.map Extent.start :=
  (starts_extentsFrom 0 d.text).symm

theorem pairwise_starts (d : Document) : (ofText d.text).starts.Pairwise (· ≤ ·) := by
  rw [ofText_starts, List.pairwise_map]
  refine (Lines.pairwise_extentsFrom ..).imp_of_mem fun {a b} ha _ hab => ?_
  exact Nat.le_trans (Lines.extentsFrom_bounds _ _ _ a ha).2.1 hab

theorem takeWhile_eq_take {starts : List Nat} (h : starts.Pairwise (· ≤ ·)) (offset : Nat) :
    starts.takeWhile (· ≤ offset) = starts.take (starts.countP (· ≤ offset)) := by
  induction starts with
  | nil => rfl
  | cons a starts ih =>
    obtain ⟨ha, hstarts⟩ := List.pairwise_cons.1 h
    by_cases hle : a ≤ offset
    · simp [hle, ih hstarts]
    · have hnone : starts.countP (· ≤ offset) = 0 := List.countP_eq_zero.2 fun b hb => by
        have := ha b hb
        simp
        omega
      simp [hle, hnone]

theorem one_le_line (t : Text) (offset : Nat) : 1 ≤ (ofText t).line offset := by
  simp [line, ofText]

/-- A position is the place in the document, counted from one. -/
theorem position_place (d : Document) (offset : Nat) :
    (ofText d.text).position offset = ⟨offset, (d.place offset).1 + 1, (d.place offset).2 + 1⟩ := by
  have hline := one_le_line d.text offset
  have hcount : (ofText d.text).line offset ≤ (ofText d.text).starts.length := List.countP_le_length
  have hlast : ((ofText d.text).starts.take ((ofText d.text).line offset)).getLastD 0 =
      (ofText d.text).starts.getD ((ofText d.text).line offset - 1) 0 := by
    rw [List.getLastD_eq_getLast?, List.getLast?_take, if_neg (by omega), List.getD_eq_getElem?_getD]
    rw [List.getElem?_eq_getElem (by omega)]
    rfl
  have htake : (d.lines.extents.map Extent.start).takeWhile (· ≤ offset) =
      (ofText d.text).starts.take ((ofText d.text).line offset) := by
    rw [← ofText_starts, takeWhile_eq_take (pairwise_starts d), line]
  simp only [Document.place, htake, position, hlast, List.length_take, Nat.min_eq_left hcount]

theorem position_eq (d : Document) {offset : Nat} (h : offset ≤ d.length) : ∃ line column,
    d.positionAt offset = .ok (line, column) ∧ (ofText d.text).position offset = ⟨offset, line + 1, column + 1⟩ :=
  ⟨_, _, if_pos ⟨by omega, by omega⟩, position_place d offset⟩

end Locator

end ComponentFormat
