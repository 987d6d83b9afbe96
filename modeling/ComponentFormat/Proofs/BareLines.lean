import ComponentFormat.Engine.Reindent
import ComponentFormat.Proofs.Spelling

/-! # The bare lines of a text

The lines of a text without the blanks around them, blank lines dropped, are all that a re-indenting engine looks at.
They are tight, and blanks around the text do not change them.
-/
namespace ComponentFormat

namespace Text

theorem exists_trimEnd (p : Char → Bool) (t : Text) :
    ∃ q, t = trimEnd p t ++ q ∧ (∀ c ∈ q, p c = true) ∧ ∀ c ∈ (trimEnd p t).getLast?, p c = false := by
  refine ⟨(t.reverse.takeWhile p).reverse, ?_, ?_, ?_⟩
  · rw [trimEnd, ← List.reverse_append, List.takeWhile_append_dropWhile, List.reverse_reverse]
  · intro c hc
    exact List.all_eq_true.1 List.all_takeWhile c (List.mem_reverse.1 hc)
  · intro c hc
    rw [trimEnd, List.getLast?_reverse] at hc
    have := List.head?_dropWhile_not p t.reverse
    rw [Option.mem_def.1 hc] at this
    simpa using this

theorem trimEnd_append {p : Char → Bool} {t q : Text} (hq : ∀ c ∈ q, p c = true)
    (ht : ∀ c ∈ t.getLast?, p c = false) : trimEnd p (t ++ q) = t := by
  rw [trimEnd, List.reverse_append, dropWhile_run, List.reverse_reverse]
  · intro c hc
    exact hq c (List.mem_reverse.1 hc)
  · intro c hc
    rw [List.head?_reverse] at hc
    exact ht c hc

/-- The text starts and ends with characters that are no blanks. -/
structure Tight (t : Text) : Prop where
  first : ∃ c ∈ t.head?, isBlank c = false
  last : ∃ c ∈ t.getLast?, isBlank c = false

theorem dropWhile_blank_iff {t : Text} : t.dropWhile isBlank = [] ↔ t.Blank := by
  constructor
  · intro h
    have := List.takeWhile_append_dropWhile (p := isBlank) (l := t)
    rw [h, List.append_nil] at this
    rw [← this]
    exact blank_takeWhile t
  · intro h
    simpa using dropWhile_run (t := []) h (by simp)

theorem strip_blank_append {r : Text} (hr : r.Blank) (t : Text) : strip (r ++ t) = strip t := by
  rw [strip, strip, List.dropWhile_append_of_pos hr]

theorem strip_append_blank {r : Text} (hr : r.Blank) (t : Text) : strip (t ++ r) = strip t := by
  have hback {u : Text} : trimEnd isBlank (u ++ r) = trimEnd isBlank u := by
    rw [trimEnd, List.reverse_append, List.dropWhile_append_of_pos, trimEnd]
    exact fun c hc => hr c (List.mem_reverse.1 hc)
  rw [strip, strip]
  by_cases ht : t.Blank
  · rw [List.dropWhile_append_of_pos ht, dropWhile_blank_iff.2 ht, dropWhile_blank_iff.2 hr]
  · rw [List.dropWhile_append, if_neg, hback]
    intro h
    exact ht (dropWhile_blank_iff.1 (List.isEmpty_iff.1 h))

theorem strip_blank {t : Text} (ht : t.Blank) : strip t = [] := strip_append_blank ht []

theorem strip_tight {s : Text} (hs : s.Tight) : strip s = s := by
  obtain ⟨c, hc, hb⟩ := hs.first
  obtain ⟨d, hd, hb'⟩ := hs.last
  have hdrop : s.dropWhile isBlank = s := by
    refine dropWhile_run blank_nil fun e he => ?_
    rw [Option.mem_def.1 hc] at he
    cases he
    exact hb
  have htrim := trimEnd_append blank_nil (t := s) fun e he => by
    rw [Option.mem_def.1 hd] at he
    cases he
    exact hb'
  rw [List.append_nil] at htrim
  rw [strip, hdrop, htrim]

/-- A text is blank, or blanks around a tight text that is left of it. -/
theorem blank_or_tight (t : Text) :
    t.Blank ∨ ∃ p q : Text, p.Blank ∧ q.Blank ∧ t = p ++ (strip t ++ q) ∧ (strip t).Tight := by
  by_cases ht : t.Blank
  · exact .inl ht
  refine .inr ?_
  obtain ⟨q, heq, hq, hlast⟩ := exists_trimEnd isBlank (t.dropWhile isBlank)
  have hp := blank_takeWhile t
  have htext : t = t.takeWhile isBlank ++ (strip t ++ q) := by
    rw [strip, ← heq, List.takeWhile_append_dropWhile]
  have hne : strip t ≠ [] := by
    intro h
    rw [h, List.nil_append] at htext
    rw [htext] at ht
    exact ht (blank_append.2 ⟨hp, hq⟩)
  refine ⟨t.takeWhile isBlank, q, hp, hq, htext, ?_, ?_⟩
  · obtain ⟨c, s, hs⟩ := List.exists_cons_of_ne_nil hne
    refine ⟨c, by rw [hs]; rfl, ?_⟩
    have := List.head?_dropWhile_not isBlank t
    rw [heq, ← strip, hs] at this
    simpa using this
  · exact ⟨_, List.getLast?_eq_some_getLast hne, hlast _ (List.getLast?_eq_some_getLast hne)⟩

theorem splitAt_ne_nil (sep : Char → Bool) (t : Text) : splitAt sep t ≠ [] := by
  cases t with
  | nil => simp [splitAt]
  | cons c t =>
    rw [splitAt]
    split
    · simp
    · split <;> simp

theorem splitAt_append {sep : Char → Bool} {c : Char} (hc : sep c = true) (a b : Text) :
    splitAt sep (a ++ c :: b) = splitAt sep a ++ splitAt sep b := by
  induction a with
  | nil => simp [splitAt, hc]
  | cons d a ih =>
    rw [List.cons_append, splitAt, splitAt, ih]
    split
    · rfl
    · obtain ⟨piece, more, hm⟩ := List.exists_cons_of_ne_nil (splitAt_ne_nil sep a)
      rw [hm]
      rfl

theorem splitAt_of_forall {sep : Char → Bool} {t : Text} (ht : ∀ c ∈ t, sep c = false) : splitAt sep t = [t] := by
  induction t with
  | nil => rfl
  | cons c t ih =>
    obtain ⟨hc, ht⟩ := List.forall_mem_cons.1 ht
    rw [splitAt, if_neg (by simp [hc]), ih ht]

/-- Line by line: what holds of a line and passes over a line feed holds of every text. -/
theorem line_induction {P : Text → Prop} (line : ∀ t, '\n' ∉ t → P t)
    (step : ∀ l t, '\n' ∉ l → P t → P (l ++ '\n' :: t)) (t : Text) : P t := by
  suffices h : ∀ l, '\n' ∉ l → P (l ++ t) from h [] (by simp)
  induction t with
  | nil => exact fun l hl => by simpa using line l hl
  | cons c t ih =>
    intro l hl
    by_cases hc : c = '\n'
    · rw [hc]
      exact step l t hl (ih [] (by simp))
    · have := ih (l ++ [c]) (by simp [hl, Ne.symm hc])
      simpa using this

end Text

namespace Reindent
open Text (Tight strip)

theorem bareLines_append (a b : Text) : bareLines (a ++ '\n' :: b) = bareLines a ++ bareLines b := by
  rw [bareLines, Text.splitAt_append (by rfl), List.map_append, List.filter_append]
  rfl

theorem bareLines_line {l : Text} (hl : '\n' ∉ l) : bareLines l = if (strip l).isEmpty then [] else [strip l] := by
  have hall : ∀ c ∈ l, isLineFeed c = false := by
    intro c hc
    refine beq_eq_false_iff_ne.2 ?_
    rintro rfl
    exact hl hc
  rw [bareLines, Text.splitAt_of_forall hall]
  cases h : (strip l).isEmpty <;> simp [h]

theorem bareLines_blank {t : Text} (ht : t.Blank) : bareLines t = [] := by
  induction t using Text.line_induction with
  | line t hl => rw [bareLines_line hl, Text.strip_blank ht]; rfl
  | step l t hl ih =>
    obtain ⟨hlb, htb⟩ := Text.blank_append.1 ht
    rw [bareLines_append, ih (Text.blank_cons.1 htb).2, bareLines_line hl, Text.strip_blank hlb]
    rfl

theorem bareLines_append_blank {r : Text} (hr : r.Blank) (t : Text) : bareLines (t ++ r) = bareLines t := by
  have hline {t r : Text} (hr : r.Blank) (hl : '\n' ∉ t ++ r) : bareLines (t ++ r) = bareLines t := by
    have ht : '\n' ∉ t := fun hm => hl (by simp [hm])
    rw [bareLines_line hl, bareLines_line ht, Text.strip_append_blank hr]
  induction t using Text.line_induction with
  | line t ht =>
    induction r using Text.line_induction with
    | line r hl => exact hline hr (by simp [ht, hl])
    | step l r hl _ =>
      obtain ⟨hlb, hrb⟩ := Text.blank_append.1 hr
      rw [← List.append_assoc, bareLines_append, bareLines_blank (Text.blank_cons.1 hrb).2, List.append_nil]
      exact hline hlb (by simp [ht, hl])
  | step l t hl ih => rw [List.append_assoc, List.cons_append, bareLines_append, bareLines_append, ih]

theorem bareLines_blank_append {r : Text} (hr : r.Blank) (t : Text) : bareLines (r ++ t) = bareLines t := by
  have hline {r t : Text} (hr : r.Blank) (hl : '\n' ∉ r ++ t) : bareLines (r ++ t) = bareLines t := by
    have ht : '\n' ∉ t := fun hm => hl (by simp [hm])
    rw [bareLines_line hl, bareLines_line ht, Text.strip_blank_append hr]
  induction r using Text.line_induction with
  | line r hl =>
    induction t using Text.line_induction with
    | line t ht => exact hline hr (by simp [hl, ht])
    | step l t ht _ => rw [← List.append_assoc, bareLines_append, bareLines_append, hline hr (by simp [hl, ht])]
  | step l r hl ih =>
    obtain ⟨hlb, hrb⟩ := Text.blank_append.1 hr
    rw [List.append_assoc, List.cons_append, bareLines_append, bareLines_blank hlb, List.nil_append,
      ih (Text.blank_cons.1 hrb).2]

theorem bareLines_tight {s : Text} (hs : s.Tight) (hl : '\n' ∉ s) : bareLines s = [s] := by
  rw [bareLines_line hl, Text.strip_tight hs, if_neg]
  obtain ⟨c, hc, -⟩ := hs.first
  cases s with
  | nil => cases hc
  | cons d s => simp

theorem of_mem_bareLines {l t : Text} (h : l ∈ bareLines t) : l.Tight ∧ '\n' ∉ l ∧ l <:+: t := by
  have hline {t : Text} (ht : '\n' ∉ t) (h : l ∈ bareLines t) : l.Tight ∧ '\n' ∉ l ∧ l <:+: t := by
    rcases t.blank_or_tight with hb | ⟨p, q, hp, hq, heq, hs⟩
    · rw [bareLines_blank hb] at h
      cases h
    · have hin : strip t <:+: t := ⟨p, q, by rw [List.append_assoc, ← heq]⟩
      have hn : '\n' ∉ strip t := fun hm => ht (hin.subset hm)
      rw [heq, bareLines_blank_append hp, bareLines_append_blank hq, bareLines_tight hs hn, List.mem_singleton] at h
      rw [h]
      exact ⟨hs, hn, hin⟩
  induction t using Text.line_induction with
  | line t ht => exact hline ht h
  | step l' t hl ih =>
    rw [bareLines_append, List.mem_append] at h
    rcases h with h | h
    · obtain ⟨hs, hn, hin⟩ := hline hl h
      exact ⟨hs, hn, hin.trans (List.prefix_append ..).isInfix⟩
    · obtain ⟨hs, hn, hin⟩ := ih h
      exact ⟨hs, hn, hin.trans ((List.suffix_cons ..).trans (List.suffix_append ..)).isInfix⟩

end Reindent

end ComponentFormat
