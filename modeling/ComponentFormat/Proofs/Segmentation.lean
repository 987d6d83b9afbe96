import ComponentFormat.Proofs.Prevalence

/-! # The segmentation of a text into lines

There is one way to write a text as lines with terminators between them in which no line holds a character of a
terminator and no carriage return is cut off from the line feed behind it. A document has the lines of this one
segmentation under their numbers, and the terminator that it writes is the one that prevails among those between them
(`Document.lines_segmented`).
-/
namespace ComponentFormat

namespace Text

/-- What is written for the numbers from `m` on, in front of `n`. -/
def gather (write : Nat → Text) (m n : Nat) : Text := (List.range' m (n - m)).flatMap write

variable {write : Nat → Text} {m n k : Nat}

@[simp] theorem gather_self (write : Nat → Text) (n : Nat) : gather write n n = [] := by simp [gather]

theorem gather_append (hmk : m ≤ k) (hkn : k ≤ n) : gather write m k ++ gather write k n = gather write m n := by
  have hrange : List.range' m (k - m) ++ List.range' k (n - k) = List.range' m (n - m) := by
    have h : List.range' m (k - m) ++ List.range' (m + 1 * (k - m)) (n - k) = _ := List.range'_append
    rwa [Nat.one_mul, Nat.add_sub_cancel' hmk, show k - m + (n - k) = n - m by omega] at h
  rw [gather, gather, ← List.flatMap_append, hrange, gather]

theorem gather_succ (h : m ≤ n) : gather write m (n + 1) = gather write m n ++ write n := by
  rw [← gather_append h (Nat.le_succ n)]
  simp [gather]

theorem gather_congr {write' : Nat → Text} (h : ∀ i, m ≤ i → i < n → write i = write' i) :
    gather write m n = gather write' m n := by
  refine List.flatMap_congr fun i hi => ?_
  have := List.mem_range'_1.1 hi
  exact h i (by omega) (by omega)

theorem gather_eq_nil (h : ∀ i, m ≤ i → i < n → write i = []) : gather write m n = [] :=
  (gather_congr h).trans (List.flatMap_eq_nil_iff.2 fun _ _ => rfl)

end Text

namespace Lines
open Text (gather)

/-- The lines make up the text. None of them holds a character of a terminator, and none that ends in a carriage return
stands in front of a line feed. -/
inductive Segments : Lines → Text → Prop
  | last {t : Text} (bare : ¬t.HasBreak) : Segments ⟨[], t⟩ t
  | line {line t last : Text} {e : Terminator} {more : List (Text × Terminator)} (bare : ¬line.HasBreak)
      (whole : e = .cr → t.head? ≠ some '\n') (behind : Segments ⟨more, last⟩ t) :
      Segments ⟨(line, e) :: more, last⟩ (line ++ e.text ++ t)

theorem Segments.breakWith {l : Lines} {t : Text} {e : Terminator} (h : l.Segments t)
    (whole : e = .cr → t.head? ≠ some '\n') : (l.breakWith e).Segments (e.text ++ t) :=
  have bare : ¬Text.HasBreak [] := by simp
  .line bare whole h

theorem Segments.push {l : Lines} {t : Text} {c : Char} (h : l.Segments t) (hc : isBreak c = false) :
    (l.push c).Segments (c :: t) := by
  cases h with
  | last bare => exact .last (by simpa [hc] using bare)
  | line bare whole behind => exact .line (by simpa [hc] using bare) whole behind

theorem segments_ofText (t : Text) : (ofText t).Segments t := by
  fun_induction ofText t with
  | case1 => exact .last (by simp)
  | case2 t ih => exact ih.breakWith (e := .crlf) fun he => by cases he
  | case3 t _ ih => exact ih.breakWith (e := .lf) fun he => by cases he
  | case4 t hne _ ih =>
    refine ih.breakWith (e := .cr) fun _ hhead => ?_
    obtain ⟨u, rfl⟩ := List.head?_eq_some_iff.1 hhead
    exact hne u rfl rfl
  | case5 c t _ hn hr ih => exact ih.push (by simp [isBreak, hn, hr])

theorem ofText_of_not_hasBreak {t : Text} (h : ¬t.HasBreak) : ofText t = ⟨[], t⟩ := by
  have htext := toText_ofText t
  rw [toText, Text.ended_eq_nil h] at htext
  exact congrArg₂ mk (Text.ended_eq_nil h) htext

/-- A line in front of its terminator is the first one. -/
theorem ofText_line {line t : Text} {e : Terminator} (hline : ¬line.HasBreak) (he : e = .cr → t.head? ≠ some '\n') :
    ofText (line ++ (e.text ++ t)) = ⟨(line, e) :: (ofText t).ended, (ofText t).last⟩ := by
  have hseam : Text.Seam line (e.text ++ t) :=
    fun h => hline ⟨'\r', List.mem_of_getLast? h.1, by decide⟩
  rw [ofText_append hseam, ofText_of_not_hasBreak hline, Text.ofText_text_append he]
  simp [append, breakWith]

theorem Segments.eq_ofText {l : Lines} {t : Text} (h : l.Segments t) : l = ofText t := by
  induction h with
  | last bare => rw [ofText_of_not_hasBreak bare]
  | line bare whole _ ih => rw [List.append_assoc, ofText_line bare whole, ← ih]

theorem segments_iff {l : Lines} {t : Text} : l.Segments t ↔ l = ofText t :=
  ⟨Segments.eq_ofText, fun h => h ▸ segments_ofText t⟩

/-- The line of a number, without its terminator; behind the last one there is nothing. -/
def line (l : Lines) (n : Nat) : Text := l.texts.getD n []

/-- What ends the line of a number: a terminator, or nothing for the last one. -/
def ending (l : Lines) (n : Nat) : Text := (l.terminators[n]?.map Terminator.text).getD []

def row (l : Lines) (n : Nat) : Text := l.line n ++ l.ending n

section
variable (l : Lines) {n : Nat}

theorem endedText_take (h : n ≤ l.ended.length) : endedText (l.ended.take n) = gather l.row 0 n := by
  induction n with
  | zero => simp [endedText]
  | succ n ih =>
    have hn : n < l.ended.length := h
    have hline : l.line n = (l.ended[n]).1 := by
      simp [line, texts, List.getD_eq_getElem?_getD, List.getElem?_append_left, hn]
    have hending : l.ending n = (l.ended[n]).2.text := by simp [ending, terminators, hn]
    rw [Text.gather_succ (Nat.zero_le n), ← ih (Nat.le_of_lt h), List.take_succ_eq_append_getElem hn, row, hline,
      hending]
    simp only [endedText, List.flatMap_append, List.flatMap_singleton]

theorem row_last : l.row l.ended.length = l.last := by simp [row, line, texts, ending, terminators]

theorem toText_eq_gather : l.toText = gather l.row 0 l.count := by
  rw [count, Text.gather_succ (Nat.zero_le _), ← l.endedText_take (Nat.le_refl _), List.take_length, row_last]
  rfl

theorem line_drop (h : n ≤ l.ended.length) : line ⟨l.ended.drop n, l.last⟩ 0 = l.line n := by
  have htexts : texts ⟨l.ended.drop n, l.last⟩ = l.texts.drop n := by
    rw [texts, texts, List.map_drop, List.drop_append_of_le_length (by simpa using h)]
  rw [line, line, htexts]
  simp [List.getD_eq_getElem?_getD]

theorem extentsFrom_zero (start : Nat) (ended : List (Text × Terminator)) (last : Text) :
    (extentsFrom start ended last)[0]? = some ⟨start, start + (line ⟨ended, last⟩ 0).length⟩ := by
  cases ended <;> rfl

end

end Lines

namespace Terminator

/-- The terminator stands in the list more often than each of the others. -/
def Prevails (e : Terminator) (ends : List Terminator) : Prop := ∀ f ≠ e, ends.count f < ends.count e

theorem prevailing_eq_iff {e : Terminator} {ends : List Terminator} :
    prevailing ends = e ↔ e.Prevails ends ∨ e = .lf ∧ ∀ f, ¬Prevails f ends := by
  constructor
  · rintro rfl
    refine (prevailing_cases ends).imp_right fun ⟨hfeed, hnone⟩ => ⟨hfeed, fun f hf => ?_⟩
    obtain ⟨g, hg, hle⟩ := hnone f
    exact absurd (hf g hg) (Nat.not_lt.2 hle)
  · rintro (hwins | ⟨rfl, hnone⟩)
    · by_contra hne
      rcases prevailing_cases ends with h | ⟨-, h⟩
      · exact Nat.lt_asymm (h e (Ne.symm hne)) (hwins _ hne)
      · obtain ⟨f, hf, hle⟩ := h e
        exact absurd (hwins f hf) (Nat.not_lt.2 hle)
    · exact (prevailing_cases ends).elim (fun h => absurd h (hnone _)) (·.1)

end Terminator

namespace Document
open Lines
open Text (gather)
variable {d : Document} {m n : Nat}

theorem extent?_eq (h : n < d.lineCount) : d.extent? n =
    some ⟨(gather d.lines.row 0 n).length, (gather d.lines.row 0 n ++ d.lines.line n).length⟩ := by
  have hn : n ≤ d.lines.ended.length := Nat.le_of_lt_succ h
  have hextents := extentsFrom_getElem? 0 (d.lines.ended.take n) (d.lines.ended.drop n) d.lines.last
  rw [List.take_append_drop, List.length_take_of_le hn, endedText_take _ hn, extentsFrom_zero, line_drop _ hn,
    Nat.zero_add, ← List.length_append] at hextents
  exact hextents

theorem extent?_eq_none (h : d.lineCount ≤ n) : d.extent? n = none :=
  List.getElem?_eq_none (Nat.le_trans (Nat.le_of_eq (length_extentsFrom ..)) h)

theorem text_eq_gather (h : n < d.lineCount) : d.text =
    gather d.lines.row 0 n ++ d.lines.line n ++ (d.lines.ending n ++ gather d.lines.row (n + 1) d.lineCount) := by
  have htext : d.text = gather d.lines.row 0 d.lineCount :=
    (toText_ofText d.text).symm.trans (toText_eq_gather d.lines)
  rw [htext, ← Text.gather_append (Nat.zero_le (n + 1)) h, Text.gather_succ (Nat.zero_le n), row]
  simp only [List.append_assoc]

theorem wholeLines_eq (hmn : m ≤ n) (h : n < d.lineCount) :
    d.wholeLines m n = .ok (gather d.lines.row m n ++ d.lines.line n) := by
  have htext := text_eq_gather h
  rw [← Text.gather_append (Nat.zero_le m) hmn, List.append_assoc (gather d.lines.row 0 m)] at htext
  have hcut := cut_append htext
  rw [← List.length_append, ← List.append_assoc, Text.gather_append (Nat.zero_le m) hmn] at hcut
  rw [wholeLines_of_extent? hmn (extent?_eq (Nat.lt_of_le_of_lt hmn h)) (extent?_eq h)]
  exact congrArg Except.ok hcut

theorem lineText_eq (n : Int) : d.lineText n =
    if 0 ≤ n ∧ n < d.lineCount then .ok (d.lines.line n.toNat) else .error (.line n) := by
  unfold lineText extent
  by_cases hneg : n < 0
  · rw [if_pos hneg, if_neg (by omega)]
    rfl
  rw [if_neg hneg]
  by_cases hn : n < d.lineCount
  · have hlt : n.toNat < d.lineCount := by omega
    rw [if_pos (by omega), extent?_eq hlt]
    show Except.ok (d.cut _ _) = _
    rw [List.length_append, cut_append (text_eq_gather hlt)]
  · rw [if_neg (by omega), extent?_eq_none (by omega)]
    rfl

/-- The lines of a document are the one segmentation of its text. Each of them is found under its number, and no other;
a row of lines is found with the terminators between them. What is written for a terminator is the one that stands more
often than each of the others, or a line feed where there is none. -/
theorem lines_segmented (d : Document) :
    (∀ l : Lines, l.Segments d.text ↔ l = d.lines) ∧
    d.lineCount = d.lines.ended.length + 1 ∧
    (∀ n : Int, d.lineText n =
      if 0 ≤ n ∧ n < d.lineCount then .ok (d.lines.line n.toNat) else .error (.line n)) ∧
    (∀ m n : Nat, m ≤ n → n < d.lineCount → d.wholeLines m n = .ok (gather d.lines.row m n ++ d.lines.line n)) ∧
    ∀ e, d.terminator = e ↔
      e.Prevails d.lines.terminators ∨ e = .lf ∧ ∀ f : Terminator, ¬f.Prevails d.lines.terminators :=
  ⟨fun _ => segments_iff, rfl, lineText_eq, fun _ _ => wholeLines_eq, fun _ => Terminator.prevailing_eq_iff⟩

end Document

end ComponentFormat
