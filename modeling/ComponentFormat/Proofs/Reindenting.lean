import Mathlib.Data.List.Forall2
import ComponentFormat.Proofs.BareLines
import ComponentFormat.Proofs.Terminators

/-! # Re-indented lines

A text is a reflowed version of its bare lines, and so is whatever sets the same lines between runs of blanks with
breaks: indenting the lines and writing another terminator is reflowing. The bare lines of what is written are the ones
that were indented.
-/
namespace ComponentFormat

namespace Reindent
open Text (Reflowed Tight strip)

def lined (ls : List Text) : Text := '\n' :: ls.flatMap (· ++ ['\n'])

theorem lined_append (ls ms : List Text) : lined (ls ++ ms) = lined ls ++ ms.flatMap (· ++ ['\n']) := by
  simp [lined]

theorem lined_cons (l : Text) (ms : List Text) : lined (l :: ms) = '\n' :: (l ++ lined ms) := by
  simp [lined]

theorem blank_lineFeed : Text.Blank ['\n'] := by decide

/-- Blanks around a line feed go with it. -/
theorem reflowed_lineFeed {r r' : Text} (hr : r.Blank) (hr' : r'.Blank) : Reflowed (r ++ '\n' :: r') ['\n'] := by
  refine .of_blank ?_ blank_lineFeed ⟨'\n', by simp, by decide⟩ ⟨'\n', by simp, by decide⟩
  exact Text.blank_append.2 ⟨hr, Text.blank_cons.2 ⟨by decide, hr'⟩⟩

theorem reflowed_line {l : Text} (hl : '\n' ∉ l) : Reflowed ('\n' :: (l ++ ['\n'])) (lined (bareLines l)) := by
  rcases l.blank_or_tight with hb | ⟨p, q, hp, hq, heq, hs⟩
  · rw [bareLines_blank hb]
    exact reflowed_lineFeed Text.blank_nil (Text.blank_append.2 ⟨hb, blank_lineFeed⟩)
  · rw [heq] at hl ⊢
    have hn : '\n' ∉ strip l := fun hm => hl (by simp [hm])
    rw [bareLines_blank_append hp, bareLines_append_blank hq, bareLines_tight hs hn, lined_cons]
    have hfront : Reflowed ('\n' :: p) ['\n'] := reflowed_lineFeed Text.blank_nil hp
    have hback : Reflowed (q ++ ['\n']) ['\n'] := reflowed_lineFeed hq Text.blank_nil
    have := hfront.append ((Reflowed.refl (strip l)).append hback)
    simpa [lined] using this

/-- Between line feeds a text is a reflowed version of its bare lines. -/
theorem reflowed_lined (t : Text) : Reflowed ('\n' :: (t ++ ['\n'])) (lined (bareLines t)) := by
  induction t using Text.line_induction with
  | line t ht => exact reflowed_line ht
  | step l t hl ih =>
    have h1 : Reflowed ('\n' :: l ++ '\n' :: (t ++ ['\n'])) ('\n' :: l ++ lined (bareLines t)) := ih.append_left _
    have h2 := (reflowed_line hl).append_right ((bareLines t).flatMap (· ++ ['\n']))
    rw [bareLines_append, lined_append]
    refine Reflowed.trans (b := '\n' :: l ++ lined (bareLines t)) (by simpa using h1) ?_
    simpa [lined] using h2

def Indented (ls ls' : List Text) : Prop :=
  List.Forall₂ (fun l l' => ∃ lead : Text, lead.Blank ∧ ¬lead.HasBreak ∧ l' = lead ++ l) ls ls'

theorem joined_cons (l : Text) {ls : List Text} (h : ls ≠ []) : joined (l :: ls) = l ++ '\n' :: joined ls := by
  cases ls with
  | nil => exact absurd rfl h
  | cons m ls => simp [joined, Text.join]

theorem exists_joined (l : Text) (ls : List Text) : ∃ t, joined (l :: ls) = l ++ t := by
  cases ls with
  | nil => exact ⟨[], (List.append_nil l).symm⟩
  | cons m ls => exact ⟨_, joined_cons l (by simp)⟩

theorem Indented.reflowed {ls ls' : List Text} (h : Indented ls ls') :
    Reflowed (lined ls) ('\n' :: (joined ls' ++ ['\n'])) := by
  induction h with
  | nil => exact (reflowed_lineFeed Text.blank_nil blank_lineFeed).symm
  | @cons l l' ls ls' hl hls ih =>
    obtain ⟨lead, hlead, -, rfl⟩ := hl
    have hfront : Reflowed ['\n'] ('\n' :: lead) := (reflowed_lineFeed Text.blank_nil hlead).symm
    rw [lined_cons]
    cases hls with
    | nil => simpa [lined, joined, Text.join] using hfront.append_right (l ++ ['\n'])
    | @cons m m' ls ls' hm hls =>
      rw [joined_cons _ (by simp)]
      have := hfront.append (ih.append_left l)
      simpa using this

/-- Written with the terminator, a text keeps its bare lines: none holds a part of it, or there is one line only. -/
def Steady (e : Terminator) (t : Text) : Prop :=
  if e = .cr then '\n' ∉ t else ∀ l ∈ bareLines t, '\r' ∉ l

theorem bareLines_indented {ls ls' : List Text} (hls : ∀ l ∈ ls, l.Tight ∧ ¬l.HasBreak) (h : Indented ls ls')
    {e : Terminator} (he : e ≠ .cr) : bareLines (Text.withTerminator e.text (joined ls')) = ls := by
  have hone {lead l : Text} (hlead : lead.Blank) (hl : l.Tight ∧ ¬l.HasBreak) : bareLines (lead ++ l) = [l] := by
    rw [bareLines_blank_append hlead, bareLines_tight hl.1]
    exact fun hm => hl.2 ⟨_, hm, by decide⟩
  induction h with
  | nil => exact bareLines_blank Text.blank_nil
  | @cons l l' ls ls' hl hmore ih =>
    obtain ⟨lead, hlead, hbreak, rfl⟩ := hl
    obtain ⟨hl, hls⟩ := List.forall_mem_cons.1 hls
    have hwhole : ¬(lead ++ l).HasBreak := by simp [hbreak, hl.2]
    cases hmore with
    | nil =>
      show bareLines (Text.withTerminator e.text (lead ++ l)) = [l]
      rw [Text.withTerminator_of_not_hasBreak hwhole, hone hlead hl]
    | @cons m m' ls ls' hm hmore =>
      rw [joined_cons _ (by simp), Text.withTerminator_line hwhole]
      generalize Text.withTerminator e.text (joined (m' :: ls')) = rest at ih
      cases e with
      | lf =>
        show bareLines (lead ++ l ++ '\n' :: rest) = _
        rw [bareLines_append, hone hlead hl, ih hls]
        rfl
      | crlf =>
        have htext : lead ++ l ++ (Terminator.crlf.text ++ rest) = lead ++ l ++ ['\r'] ++ '\n' :: rest := by
          simp [Terminator.text]
        rw [htext, bareLines_append, ih hls, bareLines_append_blank (by decide), hone hlead hl]
        rfl
      | cr => exact absurd rfl he

/-- Indenting and writing the terminator keeps the bare lines. -/
theorem bareLines_written {e : Terminator} {t : Text} {ls : List Text} (hs : Steady e t)
    (h : Indented (bareLines t) ls) (hsingle : (bareLines t).length ≤ 1 → ls = bareLines t) :
    bareLines (Text.withTerminator e.text (joined ls)) = bareLines t := by
  have htight : ∀ l ∈ bareLines t, l.Tight ∧ '\n' ∉ l := fun l hl => (of_mem_bareLines hl).imp_right And.left
  by_cases he : e = .cr
  · rw [Steady, if_pos he] at hs
    have hlines := bareLines_line hs
    have hlen : (bareLines t).length ≤ 1 := by
      rw [hlines]
      split <;> simp
    rw [hsingle hlen, he]
    cases hl : bareLines t with
    | nil => exact bareLines_blank (by simp [Text.Blank, Text.withTerminator, joined, Text.join, Lines.ofText,
        Lines.renderWith, Lines.renderBy])
    | cons l more =>
      obtain rfl : more = [] := by
        rw [hl, List.length_cons] at hlen
        exact List.eq_nil_of_length_eq_zero (by omega)
      obtain ⟨hlt, hln⟩ := htight l (by simp [hl])
      show bareLines (Text.withTerminator ['\r'] l) = [l]
      rw [Text.withTerminator_cr hln, bareLines_tight hlt hln]
  · rw [Steady, if_neg he] at hs
    refine bareLines_indented (fun l hl => ⟨(htight l hl).1, ?_⟩) h he
    rintro ⟨c, hc, hb⟩
    simp only [isBreak, Bool.or_eq_true, beq_iff_eq] at hb
    rcases hb with rfl | rfl
    · exact (htight l hl).2 hc
    · exact hs l hl hc

end Reindent

end ComponentFormat
