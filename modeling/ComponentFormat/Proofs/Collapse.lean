import ComponentFormat.Proofs.Lines
import ComponentFormat.Proofs.Spelling

/-! # Texts that differ in how their lines are broken

Two texts are reflowed versions of each other when they have the same characters between runs of blanks, and the runs
are the same or both hold a break. The relation is a congruence, and a text cut beside a character that is no blank
carries the cut over to its reflowed versions (`Reflowed.split`).
-/
namespace ComponentFormat.Text

/-- The text with each run of blanks that holds a break written as one line feed. -/
def collapse : Text → Text
  | [] => []
  | c :: t =>
    if isBlank c then
      if (collapse t).head? = some '\n' then collapse t
      else if isBreak c then '\n' :: (collapse t).dropWhile isBlank
      else c :: collapse t
    else c :: collapse t

def Reflowed (a b : Text) : Prop := collapse a = collapse b

theorem isBlank_of_isBreak {c : Char} (h : isBreak c = true) : isBlank c = true := by
  simp only [isBreak, Bool.or_eq_true, beq_iff_eq] at h
  rcases h with rfl | rfl <;> decide

theorem isBreak_of_solid {c : Char} (h : isBlank c = false) : isBreak c = false := by
  refine Bool.eq_false_iff.2 fun hb => ?_
  rw [isBlank_of_isBreak hb] at h
  cases h

theorem ne_lineFeed_of_solid {c : Char} (h : isBlank c = false) : c ≠ '\n' := by
  rintro rfl
  exact absurd h (by decide)

theorem not_hasBreak_of_solid {w : Text} (h : w.Solid) : ¬w.HasBreak := by
  rintro ⟨c, hc, hb⟩
  have := isBlank_of_isBreak hb
  rw [h c hc] at this
  cases this

theorem collapse_cons_solid {c : Char} (hc : isBlank c = false) (t : Text) :
    collapse (c :: t) = c :: collapse t := by
  rw [collapse, if_neg (by simp [hc])]

/-- Of the character in front only matters whether it is a break. -/
theorem collapse_cons_break {c : Char} (hc : isBreak c = true) (t : Text) :
    collapse (c :: t) =
      if (collapse t).head? = some '\n' then collapse t else '\n' :: (collapse t).dropWhile isBlank := by
  rw [collapse, if_pos (isBlank_of_isBreak hc), if_pos hc]

theorem head?_collapse_break {c : Char} (hc : isBreak c = true) (t : Text) :
    (collapse (c :: t)).head? = some '\n' := by
  rw [collapse_cons_break hc]
  split
  · assumption
  · rfl

theorem Reflowed.append_left {a b : Text} (h : Reflowed a b) (front : Text) :
    Reflowed (front ++ a) (front ++ b) := by
  induction front with
  | nil => exact h
  | cons c front ih =>
    have ih : collapse (front ++ a) = collapse (front ++ b) := ih
    show collapse (c :: (front ++ a)) = collapse (c :: (front ++ b))
    rw [collapse, collapse, ih]

theorem collapse_absorb {c : Char} (hc : isBreak c = true) {r : Text} (hr : r.Blank) (t : Text) :
    collapse (c :: (r ++ t)) = collapse (c :: t) := by
  induction r with
  | nil => rfl
  | cons b r ih =>
    obtain ⟨hb, hr⟩ := List.forall_mem_cons.1 hr
    rw [← ih hr, collapse_cons_break hc, collapse_cons_break hc, List.cons_append]
    by_cases hhead : (collapse (r ++ t)).head? = some '\n'
    · have hsame : collapse (b :: (r ++ t)) = collapse (r ++ t) := by rw [collapse, if_pos hb, if_pos hhead]
      rw [hsame]
    · rw [if_neg hhead]
      by_cases hbreak : isBreak b = true
      · rw [if_pos (head?_collapse_break hbreak _), collapse_cons_break hbreak, if_neg hhead]
      · have hkeep : collapse (b :: (r ++ t)) = b :: collapse (r ++ t) := by
          rw [collapse, if_pos hb, if_neg hhead, if_neg hbreak]
        have hne : b ≠ '\n' := by rintro rfl; exact hbreak (by decide)
        rw [hkeep, if_neg (by simpa using hne), List.dropWhile_cons_of_pos hb]

theorem head?_collapse_append {a : Text} (h : (collapse a).head? = some '\n') (t : Text) :
    (collapse (a ++ t)).head? = some '\n' := by
  induction a with
  | nil => cases h
  | cons c a ih =>
    rw [List.cons_append]
    by_cases hb : isBreak c = true
    · exact head?_collapse_break hb _
    · by_cases hc : isBlank c = true
      · by_cases hhead : (collapse a).head? = some '\n'
        · rw [collapse, if_pos hc, if_pos (ih hhead)]
          exact ih hhead
        · rw [collapse, if_pos hc, if_neg hhead, if_neg hb] at h
          have hcn : c = '\n' := by simpa using h
          rw [hcn] at hb
          exact absurd (by decide) hb
      · rw [collapse, if_neg hc] at h
        have hcn : c = '\n' := by simpa using h
        rw [hcn] at hc
        exact absurd (by decide) hc

theorem collapse_collapse_append (a t : Text) : collapse (collapse a ++ t) = collapse (a ++ t) := by
  induction a with
  | nil => rfl
  | cons c a ih =>
    have hstep : collapse (c :: (collapse a ++ t)) = collapse (c :: (a ++ t)) := by
      rw [collapse, collapse, ih]
    by_cases hc : isBlank c = true
    · by_cases hhead : (collapse a).head? = some '\n'
      · have hsame : collapse (c :: a) = collapse a := by rw [collapse, if_pos hc, if_pos hhead]
        rw [hsame, ih, List.cons_append, collapse, if_pos hc, if_pos (head?_collapse_append hhead t)]
      · by_cases hb : isBreak c = true
        · have habsorb := collapse_absorb hb (blank_takeWhile (collapse a)) ((collapse a).dropWhile isBlank ++ t)
          rw [← List.append_assoc, List.takeWhile_append_dropWhile] at habsorb
          rw [List.cons_append, ← hstep, habsorb, collapse_cons_break hb, if_neg hhead,
            List.cons_append, collapse_cons_break (by decide), collapse_cons_break hb]
        · have hkeep : collapse (c :: a) = c :: collapse a := by
            rw [collapse, if_pos hc, if_neg hhead, if_neg hb]
          rw [hkeep, List.cons_append, hstep]
          rfl
    · have hkeep : collapse (c :: a) = c :: collapse a := by rw [collapse, if_neg hc]
      rw [hkeep, List.cons_append, hstep]
      rfl

namespace Reflowed
variable {a b : Text}

theorem refl (a : Text) : Reflowed a a := rfl

theorem symm (h : Reflowed a b) : Reflowed b a := Eq.symm h

theorem trans {c : Text} (h : Reflowed a b) (h' : Reflowed b c) : Reflowed a c := Eq.trans h h'

theorem append_right (h : Reflowed a b) (t : Text) : Reflowed (a ++ t) (b ++ t) := by
  rw [Reflowed, ← collapse_collapse_append a, ← collapse_collapse_append b, h]

theorem append {c d : Text} (h : Reflowed a b) (h' : Reflowed c d) : Reflowed (a ++ c) (b ++ d) :=
  (h.append_right c).trans (h'.append_left b)

/-- Anywhere in a text a run of blanks with a break can stand for another. -/
theorem of_blank (ha : a.Blank) (hb : b.Blank) (hbreak : a.HasBreak) (hbreak' : b.HasBreak) : Reflowed a b := by
  have hall {r : Text} (hr : r.Blank) (h : r.HasBreak) : collapse r = ['\n'] := by
    induction r with
    | nil => simp at h
    | cons c r ih =>
      obtain ⟨hc, hr⟩ := List.forall_mem_cons.1 hr
      by_cases hcb : isBreak c = true
      · have := collapse_absorb hcb hr []
        rw [List.append_nil] at this
        rw [this, collapse_cons_break hcb]
        rfl
      · have hr' : HasBreak r := by simpa [hcb] using h
        rw [collapse, if_pos hc, ih hr hr']
        rfl
  rw [Reflowed, hall ha hbreak, hall hb hbreak']

end Reflowed

theorem collapse_of_not_hasBreak {t : Text} (h : ¬t.HasBreak) : collapse t = t := by
  induction t with
  | nil => rfl
  | cons c t ih =>
    simp only [hasBreak_cons, not_or, Bool.not_eq_true] at h
    rw [collapse, ih h.2]
    split
    · rw [if_neg, if_neg (by simp [h.1])]
      intro hhead
      exact h.2 ⟨'\n', List.mem_of_mem_head? hhead, by decide⟩
    · rfl

theorem mem_collapse {c : Char} (hc : isBlank c = false) {t : Text} : c ∈ collapse t ↔ c ∈ t := by
  have hne := ne_lineFeed_of_solid hc
  induction t with
  | nil => rfl
  | cons d t ih =>
    have hd (hb : isBlank d = true) : c ≠ d := by
      rintro rfl
      rw [hc] at hb
      cases hb
    rw [collapse]
    split
    · next hb =>
      split
      · simp [ih, hd hb]
      · split
        · have : c ∈ (collapse t).dropWhile isBlank ↔ c ∈ collapse t := by
            conv => rhs; rw [← List.takeWhile_append_dropWhile (p := isBlank) (l := collapse t)]
            rw [List.mem_append, or_iff_right]
            intro hm
            have := blank_takeWhile _ c hm
            rw [hc] at this
            cases this
          simp [this, ih, hd hb, hne]
        · simp [ih]
    · simp [ih]

theorem hasBreak_collapse {t : Text} : (collapse t).HasBreak ↔ t.HasBreak := by
  constructor
  · intro h
    refine Classical.byContradiction fun hn => ?_
    rw [collapse_of_not_hasBreak hn] at h
    exact hn h
  · intro h
    induction t with
    | nil => simp at h
    | cons c t ih =>
      by_cases hc : isBreak c = true
      · exact ⟨'\n', List.mem_of_mem_head? (head?_collapse_break hc t), by decide⟩
      · have ht : HasBreak t := by simpa [hc] using h
        rw [collapse]
        split
        · split
          · exact ih ht
          · exact hasBreak_cons.2 (.inr (ih ht))
        · exact hasBreak_cons.2 (.inr (ih ht))

theorem dropWhile_append_solid {c : Char} (hc : isBlank c = false) (a b : Text) :
    (a ++ c :: b).dropWhile isBlank = a.dropWhile isBlank ++ c :: b := by
  induction a with
  | nil => simp [hc]
  | cons d a ih =>
    by_cases hd : isBlank d = true
    · rw [List.cons_append, List.dropWhile_cons_of_pos hd, List.dropWhile_cons_of_pos hd, ih]
    · rw [List.cons_append, List.dropWhile_cons_of_neg hd, List.dropWhile_cons_of_neg hd]
      rfl

theorem head?_append_solid {c : Char} (hc : isBlank c = false) (a b : Text) :
    (a ++ c :: b).head? = some '\n' ↔ a.head? = some '\n' := by
  cases a with
  | nil => simpa using ne_lineFeed_of_solid hc
  | cons d a => rfl

theorem collapse_append_solid {c : Char} (hc : isBlank c = false) (a b : Text) :
    collapse (a ++ c :: b) = collapse a ++ c :: collapse b := by
  induction a with
  | nil => exact collapse_cons_solid hc b
  | cons d a ih =>
    rw [List.cons_append, collapse, collapse, ih]
    simp only [head?_append_solid hc, dropWhile_append_solid hc]
    split
    · split
      · rfl
      · split <;> rfl
    · rfl

theorem exists_of_collapse_eq {c : Char} (hc : isBlank c = false) {t u v : Text}
    (h : collapse t = u ++ c :: v) : ∃ a b, t = a ++ c :: b ∧ collapse a = u ∧ collapse b = v := by
  induction t generalizing u with
  | nil => simp [collapse] at h
  | cons d t ih =>
    rw [collapse] at h
    split at h
    · next hd =>
      split at h
      · next hhead =>
        obtain ⟨a, b, rfl, rfl, rfl⟩ := ih h
        rw [h, head?_append_solid hc] at hhead
        exact ⟨d :: a, b, rfl, by rw [collapse, if_pos hd, if_pos hhead], rfl⟩
      · next hhead =>
        split at h
        · next hbreak =>
          cases u with
          | nil => exact absurd (List.cons.inj h).1.symm (ne_lineFeed_of_solid hc)
          | cons e u =>
            rw [List.cons_append, List.cons.injEq] at h
            obtain ⟨rfl, hrun⟩ := h
            -- the run that `dropWhile` took away goes back in front, where the induction hypothesis can see it
            have hall := List.takeWhile_append_dropWhile (p := isBlank) (l := collapse t)
            rw [hrun, ← List.append_assoc] at hall
            obtain ⟨a, b, rfl, ha, rfl⟩ := ih hall.symm
            refine ⟨d :: a, b, rfl, ?_, rfl⟩
            rw [← hall, head?_append_solid hc, ← ha] at hhead
            rw [collapse_append_solid hc, dropWhile_append_solid hc] at hrun
            rw [collapse_cons_break hbreak, if_neg hhead, List.append_cancel_right hrun]
        · next hbreak =>
          cases u with
          | nil =>
            rw [← (List.cons.inj h).1, hd] at hc
            cases hc
          | cons e u =>
            rw [List.cons_append, List.cons.injEq] at h
            obtain ⟨rfl, h⟩ := h
            obtain ⟨a, b, rfl, rfl, rfl⟩ := ih h
            rw [h, head?_append_solid hc] at hhead
            exact ⟨d :: a, b, rfl, by rw [collapse, if_pos hd, if_neg hhead, if_neg hbreak], rfl⟩
    · next hd =>
      cases u with
      | nil =>
        obtain ⟨rfl, rfl⟩ := List.cons.inj h
        exact ⟨[], t, rfl, rfl, rfl⟩
      | cons e u =>
        rw [List.cons_append, List.cons.injEq] at h
        obtain ⟨rfl, h⟩ := h
        obtain ⟨a, b, rfl, rfl, rfl⟩ := ih h
        exact ⟨d :: a, b, rfl, by rw [collapse, if_neg hd], rfl⟩

/-- No run of blanks goes across the place where the two texts meet. -/
def Firm (a b : Text) : Prop := ∀ c ∈ a.getLast?, ∀ d ∈ b.head?, isBlank c = false ∨ isBlank d = false

theorem firm_of_head {b : Text} {c : Char} (h : b.head? = some c) (hc : isBlank c = false) (a : Text) :
    Firm a b := by
  intro d _ e he
  rw [h] at he
  cases he
  exact .inr hc

theorem firm_of_getLast {a : Text} {c : Char} (h : a.getLast? = some c) (hc : isBlank c = false) (b : Text) :
    Firm a b := by
  intro d hd e _
  rw [h] at hd
  cases hd
  exact .inl hc

namespace Reflowed
variable {a b t : Text}

/-- A reflowed text can be cut wherever no run of blanks goes across. -/
theorem split (h : Reflowed (a ++ b) t) (hfirm : Firm a b) :
    ∃ a' b', t = a' ++ b' ∧ Reflowed a a' ∧ Reflowed b b' := by
  rcases List.eq_nil_or_concat a with rfl | ⟨a, c, rfl⟩
  · exact ⟨[], t, rfl, refl _, h⟩
  cases b with
  | nil =>
    rw [List.append_nil] at h
    exact ⟨t, [], (List.append_nil t).symm, h, refl _⟩
  | cons d b =>
    rcases hfirm c (by simp) d rfl with hc | hd
    · have heq : collapse t = collapse a ++ c :: collapse (d :: b) := by
        rw [← collapse_append_solid hc, ← List.singleton_append, ← List.append_assoc, ← List.concat_eq_append]
        exact h.symm
      obtain ⟨a', b', rfl, ha, hb⟩ := exists_of_collapse_eq hc heq
      refine ⟨a' ++ [c], b', by simp, ?_, hb.symm⟩
      rw [Reflowed, List.concat_eq_append, collapse_append_solid hc, collapse_append_solid hc, ha]
    · have heq : collapse t = collapse (a.concat c) ++ d :: collapse b := by
        rw [← collapse_append_solid hd]
        exact h.symm
      obtain ⟨a', b', rfl, ha, hb⟩ := exists_of_collapse_eq hd heq
      refine ⟨a', d :: b', rfl, ha.symm, ?_⟩
      rw [Reflowed, collapse_cons_solid hd, collapse_cons_solid hd, hb]

theorem hasBreak_iff (h : Reflowed a b) : a.HasBreak ↔ b.HasBreak := by
  rw [← hasBreak_collapse, h, hasBreak_collapse]

theorem mem_iff (h : Reflowed a b) {c : Char} (hc : isBlank c = false) : c ∈ a ↔ c ∈ b := by
  rw [← mem_collapse hc, h, mem_collapse hc]

theorem eq_of_not_hasBreak (h : Reflowed a b) (ha : ¬a.HasBreak) : b = a := by
  have hb : ¬b.HasBreak := fun hb => ha (h.hasBreak_iff.2 hb)
  rw [← collapse_of_not_hasBreak hb, ← h, collapse_of_not_hasBreak ha]

theorem eq_of_solid (h : Reflowed a b) (ha : a.Solid) : b = a :=
  h.eq_of_not_hasBreak (not_hasBreak_of_solid ha)

theorem eq_nil (h : Reflowed [] b) : b = [] := h.eq_of_solid solid_nil

theorem blank (h : Reflowed a b) (ha : a.Blank) : b.Blank := by
  intro c hc
  refine Classical.byContradiction fun hn => hn (ha c ?_)
  exact (h.mem_iff (by simpa using hn)).2 hc

theorem ne_nil (h : Reflowed a b) (ha : a ≠ []) : b ≠ [] := by
  rintro rfl
  have hn : ¬a.HasBreak := fun hb => by simpa using h.hasBreak_iff.1 hb
  exact ha (h.eq_of_not_hasBreak hn).symm

theorem head?_eq (h : Reflowed a b) {c : Char} (hc : isBlank c = false) (ha : a.head? = some c) :
    b.head? = some c := by
  obtain ⟨a, rfl⟩ : ∃ u, a = [c] ++ u := by
    cases a with
    | nil => cases ha
    | cons d a =>
      cases ha
      exact ⟨a, rfl⟩
  obtain ⟨w, u, rfl, hw, -⟩ := h.split (firm_of_getLast rfl hc _)
  rw [hw.eq_of_solid (by simpa using hc)]
  rfl

theorem head?_iff (h : Reflowed a b) {c : Char} (hc : isBlank c = false) :
    a.head? = some c ↔ b.head? = some c :=
  ⟨h.head?_eq hc, h.symm.head?_eq hc⟩

end Reflowed

def solids (t : Text) : Nat := t.countP fun c => !isBlank c

@[simp] theorem solids_append (a b : Text) : solids (a ++ b) = solids a + solids b := List.countP_append

theorem solids_blank {t : Text} (h : t.Blank) : solids t = 0 :=
  List.countP_eq_zero.2 fun c hc => by simp [h c hc]

theorem solids_cons (c : Char) (t : Text) : solids (c :: t) = (if isBlank c then 0 else 1) + solids t := by
  rw [solids, List.countP_cons, Nat.add_comm]
  cases isBlank c <;> rfl

theorem solids_collapse (t : Text) : solids (collapse t) = solids t := by
  induction t with
  | nil => rfl
  | cons c t ih =>
    rw [solids_cons, ← ih, collapse]
    split
    · next hc =>
      split
      · simp
      · split
        · have hdrop := solids_append ((collapse t).takeWhile isBlank) ((collapse t).dropWhile isBlank)
          rw [List.takeWhile_append_dropWhile, solids_blank (blank_takeWhile _), Nat.zero_add] at hdrop
          rw [hdrop, solids_cons, if_pos (by decide)]
        · rw [solids_cons, if_pos hc]
    · next hc => rw [solids_cons, if_neg hc]

theorem Reflowed.solids_eq {a b : Text} (h : Reflowed a b) : a.solids = b.solids := by
  rw [← solids_collapse a, h, solids_collapse]

/-- In front of a character that is no blank a text can be cut in one way only that leaves so many such characters
in front. -/
theorem eq_of_solids {a b u v : Text} {c d : Char} (hc : isBlank c = false) (hd : isBlank d = false)
    (h : a ++ c :: u = b ++ d :: v) (hs : a.solids = b.solids) : a = b := by
  have hnil {a m u v : Text} {c d : Char} (hc : isBlank c = false) (hm : c :: u = m ++ d :: v)
      (hs : a.solids = (a ++ m).solids) : m = [] := by
    cases m with
    | nil => rfl
    | cons e m =>
      cases hm
      rw [solids_append, solids_cons, if_neg (by simp [hc])] at hs
      omega
  rcases List.append_eq_append_iff.1 h with ⟨m, rfl, hm⟩ | ⟨m, rfl, hm⟩
  · rw [hnil hc hm hs, List.append_nil]
  · rw [hnil hd hm hs.symm, List.append_nil]

namespace Reflowed
variable {a b l u : Text}

/-- Between terminators a part can be replaced by a reflowed version with other blanks around it. -/
theorem between (h : Reflowed ('\n' :: (a ++ ['\n'])) ('\n' :: (b ++ ['\n']))) {front back : Text}
    (hfront : ∀ c ∈ front.getLast?, isBreak c = true) (hback : ∀ c ∈ back.head?, isBreak c = true) :
    Reflowed ('\n' :: (front ++ a ++ back ++ ['\n'])) ('\n' :: (front ++ b ++ back ++ ['\n'])) := by
  obtain ⟨x, c, hx, hc⟩ : ∃ x c, '\n' :: front = x ++ [c] ∧ isBreak c = true := by
    rcases List.eq_nil_or_concat front with rfl | ⟨x, c, rfl⟩
    · exact ⟨[], '\n', rfl, by decide⟩
    · exact ⟨'\n' :: x, c, by simp, hfront c (by simp)⟩
  obtain ⟨d, y, hy, hd⟩ : ∃ d y, back ++ ['\n'] = d :: y ∧ isBreak d = true := by
    cases back with
    | nil => exact ⟨'\n', [], rfl, by decide⟩
    | cons d back => exact ⟨d, back ++ ['\n'], rfl, hback d rfl⟩
  have hone {c : Char} (hc : isBreak c = true) : Reflowed [c] ['\n'] :=
    .of_blank (by simpa using isBlank_of_isBreak hc) (by decide) (by simp [hc])
      (by simp [isBreak])
  have hends (t : Text) : Reflowed ([c] ++ (t ++ [d])) (['\n'] ++ (t ++ ['\n'])) :=
    (hone hc).append ((hone hd).append_left t)
  have hmid := (((hends a).trans h).trans (hends b).symm).append_left x
  have hall := hmid.append_right y
  have htext (t : Text) : '\n' :: (front ++ t ++ back ++ ['\n']) = x ++ ([c] ++ (t ++ [d])) ++ y := by
    calc '\n' :: (front ++ t ++ back ++ ['\n']) = '\n' :: front ++ (t ++ (back ++ ['\n'])) := by simp
      _ = x ++ ([c] ++ (t ++ [d])) ++ y := by rw [hx, hy]; simp
  rw [htext, htext]
  exact hall

/-- Where a single line stood behind a terminator, and no blanks are left, a single line stands. -/
theorem not_hasBreak_front (h : Reflowed ('\n' :: l) ('\n' :: u)) (hl : ¬l.HasBreak)
    (hu : ∀ c ∈ u.head?, isBlank c = false) : ¬u.HasBreak := by
  have hhead : (collapse u).head? ≠ some '\n' ∧ (collapse u).dropWhile isBlank = collapse u := by
    cases u with
    | nil => exact ⟨by simp [collapse], rfl⟩
    | cons c u =>
      have hc := hu c rfl
      rw [collapse_cons_solid hc]
      exact ⟨by simpa using ne_lineFeed_of_solid hc, by simp [hc]⟩
  have hhead' : l.head? ≠ some '\n' := fun hm => hl ⟨'\n', List.mem_of_mem_head? hm, by decide⟩
  rw [Reflowed, collapse_cons_break (by decide), collapse_cons_break (by decide), collapse_of_not_hasBreak hl,
    if_neg hhead', if_neg hhead.1, hhead.2] at h
  rw [← hasBreak_collapse, ← (List.cons.inj h).2]
  rintro ⟨c, hc, hb⟩
  exact hl ⟨c, (List.dropWhile_suffix _).subset hc, hb⟩

end Reflowed

end ComponentFormat.Text
