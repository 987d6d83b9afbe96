import ComponentFormat.Proofs.Collapse

/-! # Terminators of one kind

Writing one terminator for all is reflowing, line by line. Where all terminators of a text are the same, those of its
parts are, and one of them is written for those of the text that is put in.
-/
namespace ComponentFormat

theorem Terminator.blank_text (e : Terminator) : Text.Blank e.text := by
  cases e <;> decide

theorem Terminator.hasBreak_text (e : Terminator) : Text.HasBreak e.text := by
  cases e <;> simp [Terminator.text, isBreak]

namespace Text

theorem reflowed_withTerminator (e : Terminator) (t : Text) : Reflowed t (withTerminator e.text t) := by
  suffices h : ∀ l : Lines, Reflowed l.toText (l.renderWith e.text) by
    have := h (Lines.ofText t)
    rwa [Lines.toText_ofText] at this
  rintro ⟨ended, last⟩
  induction ended with
  | nil => exact .refl _
  | cons p more ih =>
    obtain ⟨line, f⟩ := p
    have hone : Reflowed f.text e.text := .of_blank f.blank_text e.blank_text f.hasBreak_text e.hasBreak_text
    have := ((Reflowed.refl line).append hone).append ih
    simpa [Lines.toText, Lines.renderWith, Lines.renderBy] using this

theorem renderWith_append (e : Text) (l m : Lines) :
    (l.append m).renderWith e = l.renderWith e ++ m.renderWith e := by
  rcases m with ⟨_ | ⟨⟨line, f⟩, more⟩, last⟩ <;> simp [Lines.append, Lines.renderWith, Lines.renderBy]

theorem withTerminator_append {a b : Text} (h : Seam a b) (e : Text) :
    withTerminator e (a ++ b) = withTerminator e a ++ withTerminator e b := by
  rw [withTerminator, Lines.ofText_append h, renderWith_append]
  rfl

theorem ended_eq_nil {t : Text} (h : ¬t.HasBreak) : (Lines.ofText t).ended = [] :=
  List.eq_nil_of_length_eq_zero (breaks_eq_zero_iff.2 h)

theorem withTerminator_of_not_hasBreak {t : Text} (h : ¬t.HasBreak) (e : Text) : withTerminator e t = t := by
  have ht := Lines.toText_ofText t
  rw [Lines.toText, ended_eq_nil h] at ht
  rw [withTerminator, Lines.renderWith, Lines.renderBy, ended_eq_nil h]
  exact ht

theorem withTerminator_cons {c : Char} (hc : isBreak c = false) (e t : Text) :
    withTerminator e (c :: t) = c :: withTerminator e t := by
  have hne : c ≠ '\r' := by rintro rfl; cases hc
  have hone : ¬HasBreak [c] := by simp [hc]
  rw [← List.singleton_append, withTerminator_append (seam_of_getLast rfl hne), withTerminator_of_not_hasBreak hone]
  rfl

theorem withTerminator_concat {c : Char} (hc : isBreak c = false) (e t : Text) :
    withTerminator e (t ++ [c]) = withTerminator e t ++ [c] := by
  have hne : c ≠ '\n' := by rintro rfl; cases hc
  rw [withTerminator_append (seam_of_head rfl hne), withTerminator_of_not_hasBreak (t := [c]) (by simp [hc])]

theorem withTerminator_line {l : Text} (hl : ¬l.HasBreak) (e t : Text) :
    withTerminator e (l ++ '\n' :: t) = l ++ (e ++ withTerminator e t) := by
  have hseam : Seam l ('\n' :: t) := by
    rintro ⟨h, -⟩
    exact hl ⟨'\r', List.mem_of_mem_getLast? h, by decide⟩
  have hseam' : Seam ['\n'] t := seam_of_getLast rfl (by decide)
  have hfeed : withTerminator e ['\n'] = e := by
    simp [withTerminator, Lines.ofText_lf, Lines.ofText, Lines.breakWith, Lines.renderWith, Lines.renderBy]
  rw [withTerminator_append hseam, withTerminator_of_not_hasBreak hl, ← List.singleton_append,
    withTerminator_append hseam', hfeed]

theorem withTerminator_cons_feed (e t : Text) : withTerminator e ('\n' :: t) = e ++ withTerminator e t :=
  withTerminator_line (l := []) (by simp) e t

/-- Where the only terminators are carriage returns, writing carriage returns changes nothing. -/
theorem withTerminator_cr {t : Text} (h : '\n' ∉ t) : withTerminator ['\r'] t = t := by
  induction t with
  | nil => rfl
  | cons c t ih =>
    obtain ⟨hc, ht⟩ := not_or.1 (mt List.mem_cons.2 h)
    have hseam : Seam [c] t := by
      rintro ⟨-, hn⟩
      exact ht (List.mem_of_mem_head? hn)
    show withTerminator ['\r'] ([c] ++ t) = c :: t
    rw [withTerminator_append hseam, ih ht]
    by_cases hr : c = '\r'
    · rw [hr]
      rfl
    · have hone : ¬HasBreak [c] := by simp [isBreak, hr, Ne.symm hc]
      rw [withTerminator_of_not_hasBreak hone]
      rfl

end Text

namespace Lines

def endedBy (e : Terminator) (l : Lines) : Lines :=
  ⟨l.ended.map fun p => (p.1, e), l.last⟩

theorem endedBy_breakWith (e f : Terminator) (l : Lines) : (l.breakWith f).endedBy e = (l.endedBy e).breakWith e := rfl

theorem endedBy_push (e : Terminator) (c : Char) (l : Lines) : (l.push c).endedBy e = (l.endedBy e).push c := by
  rcases l with ⟨_ | ⟨⟨line, f⟩, more⟩, last⟩ <;> rfl

@[simp] theorem texts_endedBy (e : Terminator) (l : Lines) : (l.endedBy e).texts = l.texts := by
  simp [texts, endedBy]

theorem eq_of_mem_endedBy {e f : Terminator} {l : Lines} (h : f ∈ (l.endedBy e).terminators) : f = e := by
  obtain ⟨p, hp, rfl⟩ := List.mem_map.1 h
  obtain ⟨q, -, rfl⟩ := List.mem_map.1 hp
  rfl

end Lines

namespace Text
variable {e : Terminator} {t : Text}

/-- Every terminator of the text is `e`. -/
def Uses (e : Terminator) (t : Text) : Prop := ∀ f ∈ (Lines.ofText t).terminators, f = e

theorem terminators_append {a b : Text} (h : Seam a b) : (Lines.ofText (a ++ b)).terminators =
    (Lines.ofText a).terminators ++ (Lines.ofText b).terminators := by
  rw [Lines.ofText_append h]
  rcases Lines.ofText b with ⟨_ | ⟨⟨line, f⟩, more⟩, last⟩ <;> simp [Lines.append, Lines.terminators]

/-- Where no terminator straddles the ends of a part, the terminators are those of the three parts. -/
theorem terminators_between {a x b : Text} (hfirst : ∃ c ∈ x.head?, isBreak c = false)
    (hlast : ∃ c ∈ x.getLast?, isBreak c = false) : (Lines.ofText (a ++ x ++ b)).terminators =
      (Lines.ofText a).terminators ++ (Lines.ofText x).terminators ++ (Lines.ofText b).terminators := by
  obtain ⟨c, hc, hb⟩ := hfirst
  obtain ⟨d, hd, hb'⟩ := hlast
  have hfront : Seam a x := seam_of_head hc (by rintro rfl; cases hb)
  have hback : Seam (a ++ x) b := by
    refine seam_of_getLast (c := d) ?_ (by rintro rfl; cases hb')
    rw [List.getLast?_append, Option.mem_def.1 hd]
    rfl
  rw [terminators_append hback, terminators_append hfront]

theorem uses_append {a b : Text} (h : Seam a b) : Uses e (a ++ b) ↔ Uses e a ∧ Uses e b := by
  simp only [Uses, terminators_append h, List.forall_mem_append]

/-- Where no terminator straddles the ends of a part, all three parts have terminators of one kind. -/
theorem uses_between {a x b : Text} (hfirst : ∃ c ∈ x.head?, isBreak c = false)
    (hlast : ∃ c ∈ x.getLast?, isBreak c = false) :
    Uses e (a ++ x ++ b) ↔ (Uses e a ∧ Uses e x) ∧ Uses e b := by
  simp only [Uses, terminators_between hfirst hlast, List.forall_mem_append]

theorem uses_of_not_hasBreak (h : ¬t.HasBreak) (e : Terminator) : Uses e t := by
  simp [Uses, Lines.terminators, ended_eq_nil h]

theorem uses_breakWith {f : Terminator} {l : Lines} :
    (∀ g ∈ (l.breakWith f).terminators, g = e) ↔ f = e ∧ ∀ g ∈ l.terminators, g = e := by
  simp [Lines.terminators, Lines.breakWith]

theorem terminators_push (c : Char) (l : Lines) : (l.push c).terminators = l.terminators := by
  rcases l with ⟨_ | ⟨⟨line, f⟩, more⟩, last⟩ <;> rfl

theorem renderWith_breakWith (r : Text) (f : Terminator) (l : Lines) :
    (l.breakWith f).renderWith r = r ++ l.renderWith r := by
  simp [Lines.breakWith, Lines.renderWith, Lines.renderBy]

theorem renderWith_push (r : Text) (c : Char) (l : Lines) : (l.push c).renderWith r = c :: l.renderWith r := by
  rcases l with ⟨_ | ⟨⟨line, f⟩, more⟩, last⟩ <;> simp [Lines.push, Lines.renderWith, Lines.renderBy]

theorem not_mem_withTerminator {r : Text} (hr : '\n' ∉ r) (t : Text) : '\n' ∉ withTerminator r t := by
  unfold withTerminator
  fun_induction Lines.ofText t with
  | case1 => simp [Lines.renderWith, Lines.renderBy]
  | case2 t ih => simpa [renderWith_breakWith, hr] using ih
  | case3 t _ ih => simpa [renderWith_breakWith, hr] using ih
  | case4 t _ _ ih => simpa [renderWith_breakWith, hr] using ih
  | case5 c t _ hn _ ih => simpa [renderWith_push, Ne.symm hn] using ih

theorem ofText_text_append (h : e = .cr → t.head? ≠ some '\n') :
    Lines.ofText (e.text ++ t) = (Lines.ofText t).breakWith e := by
  cases e with
  | lf => exact Lines.ofText_lf t
  | crlf => exact Lines.ofText_crlf t
  | cr => exact Lines.ofText_cr (h rfl)

theorem ofText_withTerminator (e : Terminator) (t : Text) :
    Lines.ofText (withTerminator e.text t) = (Lines.ofText t).endedBy e := by
  have hbreak (f : Terminator) (u : Text) : Lines.ofText (((Lines.ofText u).breakWith f).renderWith e.text) =
      (Lines.ofText ((Lines.ofText u).renderWith e.text)).breakWith e := by
    rw [renderWith_breakWith]
    refine ofText_text_append ?_
    rintro rfl hhead
    exact not_mem_withTerminator (by decide) u (List.mem_of_mem_head? hhead)
  unfold withTerminator
  fun_induction Lines.ofText t with
  | case1 => rfl
  | case2 t ih => rw [hbreak, ih, Lines.endedBy_breakWith]
  | case3 t _ ih => rw [hbreak, ih, Lines.endedBy_breakWith]
  | case4 t _ _ ih => rw [hbreak, ih, Lines.endedBy_breakWith]
  | case5 c t _ hn hr ih =>
    rw [renderWith_push, Lines.ofText_other (by simp [isBreak, hn, hr]), ih, Lines.endedBy_push]

theorem uses_withTerminator (e : Terminator) (t : Text) : Uses e (withTerminator e.text t) := by
  intro f hf
  rw [ofText_withTerminator] at hf
  exact Lines.eq_of_mem_endedBy hf

theorem Uses.not_mem_return (h : Uses .lf t) : '\r' ∉ t := by
  unfold Uses at h
  fun_induction Lines.ofText t with
  | case1 => simp
  | case2 t ih => simp [uses_breakWith] at h
  | case3 t _ ih => simpa using ih (uses_breakWith.1 h).2
  | case4 t _ _ ih => simp [uses_breakWith] at h
  | case5 c t _ _ hr ih =>
    rw [terminators_push] at h
    simpa [Ne.symm hr] using ih h

theorem Uses.not_mem_feed (h : Uses .cr t) : '\n' ∉ t := by
  unfold Uses at h
  fun_induction Lines.ofText t with
  | case1 => simp
  | case2 t ih => simp [uses_breakWith] at h
  | case3 t _ ih => simp [uses_breakWith] at h
  | case4 t _ _ ih => simpa using ih (uses_breakWith.1 h).2
  | case5 c t _ hn _ ih =>
    rw [terminators_push] at h
    simpa [Ne.symm hn] using ih h

/-- Where only the two characters together end a line, a carriage return stands in front of a line feed. -/
theorem Uses.head?_behind_return (h : Uses .crlf t) {a b : Text} (ht : t = a ++ '\r' :: b) :
    b.head? = some '\n' := by
  unfold Uses at h
  fun_induction Lines.ofText t generalizing a with
  | case1 => simp at ht
  | case2 t ih =>
    rcases a with _ | ⟨c, _ | ⟨d, a⟩⟩
    · cases ht
      rfl
    · simp at ht
    · simp only [List.cons_append, List.cons.injEq] at ht
      exact ih (uses_breakWith.1 h).2 ht.2.2
  | case3 t _ ih => simp [uses_breakWith] at h
  | case4 t _ _ ih => simp [uses_breakWith] at h
  | case5 c t _ _ hr ih =>
    rw [terminators_push] at h
    rcases a with _ | ⟨d, a⟩
    · exact absurd (List.cons.inj ht).1 hr
    · exact ih h (List.cons.inj ht).2

/-- Two texts with terminators of one kind do not make another one where they meet. -/
theorem Uses.seam {a b : Text} (ha : Uses e a) (hb : Uses e b) : Seam a b := by
  rintro ⟨hreturn, hfeed⟩
  cases e with
  | lf => exact ha.not_mem_return (List.mem_of_getLast? hreturn)
  | cr => exact hb.not_mem_feed (List.mem_of_mem_head? hfeed)
  | crlf =>
    obtain ⟨front, rfl⟩ := List.getLast?_eq_some_iff.1 hreturn
    have hnext := ha.head?_behind_return rfl
    cases hnext

theorem Uses.append {a b : Text} (ha : Uses e a) (hb : Uses e b) : Uses e (a ++ b) :=
  (uses_append (ha.seam hb)).2 ⟨ha, hb⟩

end Text

theorem Lines.dominant_eq {l : Lines} {e : Terminator} (h : ∀ f ∈ l.terminators, f = e)
    (he : e = .lf ∨ l.ended ≠ []) : l.dominant = e := by
  have hends : l.terminators = List.replicate l.ended.length e := by
    refine List.eq_replicate_iff.2 ⟨by simp [Lines.terminators], h⟩
  unfold Lines.dominant
  rw [hends]
  rcases Nat.eq_zero_or_pos l.ended.length with hn | hn
  · have hnil : l.ended = [] := List.eq_nil_of_length_eq_zero hn
    rw [hn, he.resolve_right (by simp [hnil])]
    rfl
  · cases e <;> simp [Terminator.all, List.count_replicate, hn]

namespace Document
variable {d : Document}

theorem terminator_eq {e : Terminator} (h : d.text.Uses e) (he : e = .lf ∨ d.text.HasBreak) : d.terminator = e := by
  refine Lines.dominant_eq h (he.imp_right fun hb hnil => ?_)
  have : d.text.breaks = 0 := by rw [Text.breaks, ← lines, hnil, List.length_nil]
  exact Text.breaks_eq_zero_iff.1 this hb

/-- Where all terminators are the same, they are the one for text written into the document. -/
theorem uses_terminator (h : ∀ e ∈ d.lines.terminators, ∀ f ∈ d.lines.terminators, e = f) :
    d.text.Uses d.terminator ∧ (d.terminator = .lf ∨ d.text.HasBreak) := by
  cases hl : d.lines.ended with
  | nil =>
    have hnone : ¬d.text.HasBreak := Text.breaks_eq_zero_iff.1 (by rw [Text.breaks, ← lines, hl, List.length_nil])
    exact ⟨Text.uses_of_not_hasBreak hnone _, .inl (terminator_eq (Text.uses_of_not_hasBreak hnone _) (.inl rfl))⟩
  | cons p more =>
    have hp : p.2 ∈ d.lines.terminators := by simp [Lines.terminators, hl]
    have huses : d.text.Uses p.2 := fun f hf => h f hf p.2 hp
    have hbreak : d.text.HasBreak := Text.breaks_pos_iff.1 (by rw [Text.breaks, ← lines, hl]; simp)
    rw [terminator_eq huses (.inr hbreak)]
    exact ⟨huses, .inr hbreak⟩

end Document

end ComponentFormat
