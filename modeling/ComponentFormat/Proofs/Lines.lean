import ComponentFormat.Document

/-! # Lines of joined texts

Where two texts meet without forming a CR LF, the lines of the whole are those of the parts, the last line of the
first continued by the first line of the second. Line numbers, line extents and places of a document all follow
from this one equation.
-/
namespace ComponentFormat

/-- The characters that terminators are made of. -/
def isBreak (c : Char) : Bool := c == '\n' || c == '\r'

namespace Text

/-- No terminator straddles the place where the two texts meet. -/
def Seam (a b : Text) : Prop := ¬(a.getLast? = some '\r' ∧ b.head? = some '\n')

def breaks (t : Text) : Nat := (Lines.ofText t).ended.length

def firstLine (t : Text) : Text :=
  match (Lines.ofText t).ended with
  | [] => (Lines.ofText t).last
  | (line, _) :: _ => line

def lastLine (t : Text) : Text := (Lines.ofText t).last

def HasBreak (t : Text) : Prop := ∃ c ∈ t, isBreak c

theorem Seam.cons {c : Char} {a b : Text} (h : Seam (c :: a) b) : Seam a b := by
  rintro ⟨ha, hb⟩
  cases a with
  | nil => simp at ha
  | cons d a => exact h ⟨by simpa [List.getLast?_cons_cons] using ha, hb⟩

theorem seam_of_head {a b : Text} {c : Char} (h : b.head? = some c) (hc : c ≠ '\n') : Seam a b := by
  rintro ⟨_, hb⟩
  rw [h] at hb
  exact hc (Option.some.inj hb)

theorem seam_of_getLast {a b : Text} {c : Char} (h : a.getLast? = some c) (hc : c ≠ '\r') : Seam a b := by
  rintro ⟨ha, _⟩
  rw [h] at ha
  exact hc (Option.some.inj ha)

@[simp] theorem seam_nil_right (a : Text) : Seam a [] := by simp [Seam]

end Text

namespace Lines
open Text (Seam)

/-- The last line of the first part is continued by the first line of the second. -/
def append (l m : Lines) : Lines :=
  match m.ended with
  | [] => ⟨l.ended, l.last ++ m.last⟩
  | (line, e) :: more => ⟨l.ended ++ (l.last ++ line, e) :: more, m.last⟩

@[simp] theorem nil_append (m : Lines) : append ⟨[], []⟩ m = m := by
  rcases m with ⟨_ | ⟨⟨line, e⟩, more⟩, last⟩ <;> simp [append]

theorem breakWith_append (e : Terminator) (l m : Lines) :
    (l.breakWith e).append m = (l.append m).breakWith e := by
  rcases m with ⟨_ | ⟨⟨line, d⟩, more⟩, last⟩ <;> simp [append, breakWith]

theorem push_append (c : Char) (l m : Lines) : (l.push c).append m = (l.append m).push c := by
  rcases l with ⟨_ | ⟨⟨line, d⟩, more⟩, last⟩ <;> rcases m with ⟨_ | ⟨⟨line', d'⟩, more'⟩, last'⟩ <;>
    simp [append, push]

theorem ofText_crlf (t : Text) : ofText ('\r' :: '\n' :: t) = (ofText t).breakWith .crlf := by
  rw [ofText]

theorem ofText_lf (t : Text) : ofText ('\n' :: t) = (ofText t).breakWith .lf := by
  rw [ofText]
  · simp
  · simp

theorem ofText_cr {t : Text} (h : t.head? ≠ some '\n') : ofText ('\r' :: t) = (ofText t).breakWith .cr := by
  rw [ofText]
  · simp
  · rintro u _ rfl
    exact h rfl

theorem ofText_other {c : Char} (hc : isBreak c = false) (t : Text) :
    ofText (c :: t) = (ofText t).push c := by
  simp only [isBreak, Bool.or_eq_false_iff, beq_eq_false_iff_ne] at hc
  rw [ofText]
  · simp [hc.1, hc.2]
  · rintro u rfl
    exact absurd rfl hc.2

theorem ofText_append {a b : Text} (h : Seam a b) : ofText (a ++ b) = (ofText a).append (ofText b) := by
  fun_induction ofText a with
  | case1 => simp
  | case2 t ih =>
    rw [breakWith_append, ← ih h.cons.cons]
    exact ofText_crlf _
  | case3 t _ ih =>
    rw [breakWith_append, ← ih h.cons]
    exact ofText_lf _
  | case4 t hne _ ih =>
    rw [breakWith_append, ← ih h.cons]
    refine ofText_cr ?_
    cases t with
    | nil => exact fun hb => h ⟨rfl, hb⟩
    | cons d t =>
      intro hd
      have hd : d = '\n' := Option.some.inj hd
      exact hne t rfl (by rw [hd])
  | case5 c t _ hn hr ih =>
    rw [push_append, ← ih h.cons]
    exact ofText_other (by simp [isBreak, hn, hr]) _

end Lines

namespace Text

theorem breaks_append {a b : Text} (h : Seam a b) : (a ++ b).breaks = a.breaks + b.breaks := by
  simp only [breaks, Lines.ofText_append h, Lines.append]
  split
  · next hb => simp [hb]
  · next hb => simp [hb]

theorem breaks_eq_zero_iff {t : Text} : t.breaks = 0 ↔ ¬t.HasBreak := by
  simp only [breaks, HasBreak]
  fun_induction Lines.ofText t with
  | case1 => simp
  | case2 t => simp [Lines.breakWith, isBreak]
  | case3 t => simp [Lines.breakWith, isBreak]
  | case4 t => simp [Lines.breakWith, isBreak]
  | case5 c t _ hn hr ih =>
    have hl : ((Lines.ofText t).push c).ended.length = (Lines.ofText t).ended.length := by
      rcases Lines.ofText t with ⟨_ | ⟨⟨line, e⟩, more⟩, last⟩ <;> simp [Lines.push]
    have hc : isBreak c = false := by simp [isBreak, hn, hr]
    simp [hl, ih, hc]

theorem breaks_pos_iff {t : Text} : 0 < t.breaks ↔ t.HasBreak := by
  rw [Nat.pos_iff_ne_zero, ne_eq, breaks_eq_zero_iff, Classical.not_not]

@[simp] theorem hasBreak_nil : ¬HasBreak [] := by simp [HasBreak]

@[simp] theorem hasBreak_append {a b : Text} : HasBreak (a ++ b) ↔ HasBreak a ∨ HasBreak b := by
  simp only [HasBreak, List.mem_append]
  grind

@[simp] theorem hasBreak_cons {c : Char} {t : Text} : HasBreak (c :: t) ↔ isBreak c ∨ HasBreak t := by
  simp [HasBreak]

theorem firstLine_eq (t : Text) : t.firstLine = t.takeWhile fun c => !isBreak c := by
  unfold firstLine
  fun_induction Lines.ofText t with
  | case1 => rfl
  | case2 t => rfl
  | case3 t => rfl
  | case4 t => rfl
  | case5 c t _ hn hr ih =>
    have hc : (!isBreak c) = true := by simp [isBreak, hn, hr]
    rw [List.takeWhile_cons, if_pos hc, ← ih]
    rcases Lines.ofText t with ⟨_ | ⟨⟨line, e⟩, more⟩, last⟩ <;> rfl

theorem not_hasBreak_firstLine (t : Text) : ¬t.firstLine.HasBreak := by
  rw [firstLine_eq]
  rintro ⟨c, hc, hb⟩
  have := List.all_eq_true.1 List.all_takeWhile c hc
  simp [hb] at this

theorem not_hasBreak_lastLine (t : Text) : ¬t.lastLine.HasBreak := by
  unfold lastLine
  fun_induction Lines.ofText t with
  | case1 => simp
  | case2 t ih => exact ih
  | case3 t _ ih => exact ih
  | case4 t _ _ ih => exact ih
  | case5 c t _ hn hr ih =>
    have hc : isBreak c = false := by simp [isBreak, hn, hr]
    generalize Lines.ofText t = l at ih ⊢
    rcases l with ⟨_ | ⟨⟨line, e⟩, more⟩, last⟩
    · simpa [Lines.push, hc] using ih
    · exact ih

/-- Behind the first line the text is over or goes on with a terminator. -/
theorem exists_firstLine_append (t : Text) :
    ∃ tail, t = t.firstLine ++ tail ∧ ∀ c ∈ tail.head?, isBreak c = true := by
  refine ⟨t.dropWhile fun c => !isBreak c, ?_, fun c hc => ?_⟩
  · rw [firstLine_eq, List.takeWhile_append_dropWhile]
  · have := List.head?_dropWhile_not (fun c => !isBreak c) t
    rw [Option.mem_def.1 hc] at this
    simpa using this

/-- In front of the last line the text has just begun or has a terminator. -/
theorem exists_append_lastLine (t : Text) :
    ∃ head, t = head ++ t.lastLine ∧ ∀ c ∈ head.getLast?, isBreak c = true := by
  have ht := Lines.toText_ofText t
  unfold lastLine
  generalize Lines.ofText t = l at ht ⊢
  rcases l with ⟨ended, last⟩
  refine ⟨ended.flatMap fun p => p.1 ++ p.2.text, by simpa [Lines.toText] using ht.symm, ?_⟩
  rcases List.eq_nil_or_concat ended with rfl | ⟨front, ⟨line, e⟩, rfl⟩
  · simp
  · cases e <;> simp [Terminator.text, isBreak, List.getLast?_append]

theorem firstLine_append {w t : Text} (hw : ¬w.HasBreak) (ht : ∀ c ∈ t.head?, isBreak c = true) :
    (w ++ t).firstLine = w := by
  have hall : ∀ d ∈ w, (!isBreak d) = true := fun d hd => by
    simpa using fun hb => hw ⟨d, hd, hb⟩
  rw [firstLine_eq, List.takeWhile_append_of_pos hall]
  cases t with
  | nil => simp
  | cons c t => rw [List.takeWhile_cons_of_neg (by simp [ht c rfl]), List.append_nil]

theorem firstLine_append_break {w : Text} (hw : ¬w.HasBreak) {c : Char} (hc : isBreak c = true) (t : Text) :
    (w ++ c :: t).firstLine = w :=
  firstLine_append hw (by simpa using hc)

/-- Of two ways to cut a text the one that cuts no later leaves more behind. -/
theorem exists_of_append_eq_of_le {a b c d : Text} (h : a ++ b = c ++ d) (hle : a.length ≤ c.length) :
    ∃ m, c = a ++ m ∧ b = m ++ d := by
  obtain ⟨m, rfl⟩ := List.prefix_of_prefix_length_le (List.prefix_append a b) (h ▸ List.prefix_append c d) hle
  exact ⟨m, rfl, by simpa using h⟩

/-- A terminator in the text stands in front of its last line. -/
theorem exists_of_append_eq {a b l m : Text} {c : Char} (hl : ¬l.HasBreak) (hc : isBreak c = true)
    (h : a ++ l = b ++ c :: m) : ∃ m', a = b ++ c :: m' := by
  have hcut : a ++ l = b ++ [c] ++ m := by simpa using h
  rcases List.append_eq_append_iff.1 hcut with ⟨w, hw, rfl⟩ | ⟨w, rfl, -⟩
  · rcases List.eq_nil_or_concat w with rfl | ⟨w, d, rfl⟩
    · exact ⟨[], by simpa using hw.symm⟩
    · rw [List.concat_eq_append, ← List.append_assoc] at hw
      obtain ⟨-, hd⟩ := List.append_inj' hw rfl
      cases hd
      exact absurd ⟨c, by simp, hc⟩ hl
  · exact ⟨w, by simp⟩

theorem lastLine_append_break {w : Text} (hw : ¬w.HasBreak) {c : Char} (hc : isBreak c = true) (t : Text) :
    (t ++ c :: w).lastLine = w := by
  obtain ⟨head, hhead, hlast⟩ := exists_append_lastLine (t ++ c :: w)
  obtain ⟨m, hm⟩ := exists_of_append_eq (not_hasBreak_lastLine _) hc hhead.symm
  rw [hm, List.append_assoc] at hhead
  obtain ⟨-, hrest⟩ := List.cons.inj (List.append_cancel_left hhead)
  rcases List.eq_nil_or_concat m with rfl | ⟨m, d, rfl⟩
  · exact hrest.symm
  · rw [hm, List.concat_eq_append, ← List.cons_append, ← List.append_assoc] at hlast
    refine absurd ⟨d, ?_, hlast d List.getLast?_concat⟩ hw
    rw [hrest]
    simp

theorem lastLine_append {t w : Text} (hw : ¬w.HasBreak) (ht : ∀ c ∈ t.getLast?, isBreak c = true) :
    (t ++ w).lastLine = w := by
  rcases List.eq_nil_or_concat t with rfl | ⟨t, c, rfl⟩
  · obtain ⟨head, hhead, hlast⟩ := w.exists_append_lastLine
    rcases List.eq_nil_or_concat head with rfl | ⟨head, d, rfl⟩
    · exact hhead.symm
    · refine absurd ⟨d, ?_, hlast d (by simp)⟩ hw
      rw [hhead]
      simp
  · have := lastLine_append_break hw (ht c (by simp)) t
    simpa using this

theorem lastLine_append_cons {c : Char} (hc : isBreak c = true) (t m : Text) :
    lastLine (t ++ c :: m) = lastLine (c :: m) := by
  obtain ⟨head, hhead, hlast⟩ := exists_append_lastLine (c :: m)
  have hnone := not_hasBreak_lastLine (c :: m)
  rcases List.eq_nil_or_concat head with rfl | ⟨head, d, rfl⟩
  · rw [List.nil_append] at hhead
    exact absurd (hhead ▸ hasBreak_cons.2 (.inl hc)) hnone
  · have hd : isBreak d = true := hlast d (by simp)
    generalize lastLine (c :: m) = l at hhead hnone ⊢
    have htext : t ++ c :: m = t ++ head ++ d :: l := by
      rw [hhead]
      simp
    rw [htext, lastLine_append_break hnone hd]

end Text

end ComponentFormat
