import ComponentFormat.Proofs.Regions
import ComponentFormat.Region.Outcome

/-! # Applying edits

Edits that ascend, share no line and stay within the document are always applied, and the result is the document with
the lines of each edit replaced and every other character kept: the terminators too, since a line ends before its
terminator.
-/
namespace ComponentFormat

namespace Document
variable {d : Document}

theorem exists_extent? {n : Nat} (h : n < d.lineCount) : ∃ e, d.extent? n = some e := by
  have hlen : d.lines.extents.length = d.lineCount := Lines.length_extentsFrom ..
  exact ⟨_, List.getElem?_eq_getElem (hlen ▸ h)⟩

theorem extent?_bounds {n : Nat} {e : Extent} (h : d.extent? n = some e) :
    e.start ≤ e.stop ∧ e.stop ≤ d.text.length := by
  have hlen := Text.length_endedText d.text
  have := Lines.extentsFrom_bounds 0 _ _ e (List.mem_of_getElem? h)
  simp only [lines, Text.lastLine] at this hlen
  omega

theorem stop_le_start {m n : Nat} {a b : Extent} (ha : d.extent? m = some a) (hb : d.extent? n = some b)
    (hlt : m < n) : a.stop ≤ b.start := by
  obtain ⟨hm, rfl⟩ := List.getElem?_eq_some_iff.1 ha
  obtain ⟨hn, rfl⟩ := List.getElem?_eq_some_iff.1 hb
  exact List.pairwise_iff_getElem.1 (Lines.pairwise_extentsFrom ..) m n hm hn hlt

theorem exists_offsets {s : LineSpan} (h : s.last < d.lineCount) : ∃ start stop,
    d.lineStart s.first = .ok start ∧ d.lineEnd s.last = .ok stop ∧ start ≤ stop ∧
      stop ≤ d.text.length := by
  have hs := s.first_le_last
  obtain ⟨a, ha⟩ := exists_extent? (Nat.lt_of_le_of_lt hs h)
  obtain ⟨b, hb⟩ := exists_extent? h
  refine ⟨a.start, b.stop, lineStart_of_extent? ha, lineEnd_of_extent? hb, ?_, (extent?_bounds hb).2⟩
  rcases Nat.lt_or_eq_of_le hs with hlt | heq
  · have := stop_le_start ha hb hlt
    have := (extent?_bounds ha).1
    have := (extent?_bounds hb).1
    omega
  · rw [heq, hb] at ha
    cases ha
    exact (extent?_bounds hb).1

theorem lineEnd_le_lineStart {m n : Nat} {stop start : Nat} (hlt : m < n) (hn : n < d.lineCount)
    (hstop : d.lineEnd m = .ok stop) (hstart : d.lineStart n = .ok start) : stop ≤ start := by
  obtain ⟨a, ha⟩ := exists_extent? (Nat.lt_trans hlt hn)
  obtain ⟨b, hb⟩ := exists_extent? hn
  rw [lineEnd_of_extent? ha] at hstop
  rw [lineStart_of_extent? hb] at hstart
  cases hstop
  cases hstart
  exact stop_le_start ha hb hlt

/-- From offset `pos` of the document on stands `old`, and `new` is `old` with the lines of each edit replaced by its
text. What stands between the edits stands in both. -/
inductive Rewrites (d : Document) : Nat → List Edit → Text → Text → Prop
  | rest (pos : Nat) (t : Text) : Rewrites d pos [] t t
  | edit {pos : Nat} {e : Edit} {more : List Edit} {kept lines old new : Text}
      (first : d.lineStart e.span.first = .ok (pos + kept.length))
      (last : d.lineEnd e.span.last = .ok (pos + kept.length + lines.length))
      (behind : Rewrites d (pos + kept.length + lines.length) more old new) :
      Rewrites d pos (e :: more) (kept ++ lines ++ old) (kept ++ e.text ++ new)

theorem wholeLines_of_offsets {s : LineSpan} {front lines behind : Text} (ht : d.text = front ++ lines ++ behind)
    (hfirst : d.lineStart s.first = .ok front.length) (hlast : d.lineEnd s.last = .ok (front.length + lines.length)) :
    d.wholeLines s.first s.last = .ok lines := by
  have hle : ¬(s.last : Int) < s.first := by
    have := s.first_le_last
    omega
  simp [wholeLines, hle, hfirst, hlast, bind, Except.bind, pure, Except.pure, cut_append ht]

/-- What stands from the end of `front` on is kept up to the lines of the first edit, these lines, and the rest. -/
theorem Rewrites.exists_step {e : Edit} {more : List Edit} {front old new : Text}
    (h : d.Rewrites front.length (e :: more) old new) (ht : d.text = front ++ old) :
    ∃ kept lines old' new', old = kept ++ lines ++ old' ∧ new = kept ++ e.text ++ new' ∧
      d.lineStart e.span.first = .ok (front ++ kept).length ∧ d.wholeLines e.span.first e.span.last = .ok lines ∧
      d.Rewrites (front ++ kept ++ lines).length more old' new' ∧ d.text = front ++ kept ++ lines ++ old' := by
  cases h with
  | @edit _ _ _ kept lines old new first last behind =>
    rw [← List.length_append] at first last behind
    rw [← List.length_append] at behind
    have htext : d.text = front ++ kept ++ lines ++ old := by rw [ht]; simp only [List.append_assoc]
    exact ⟨kept, lines, old, new, rfl, rfl, first, wholeLines_of_offsets htext first last, behind, htext⟩

theorem exists_parts {t : Text} {pos start stop : Nat} (h : pos ≤ start) (hle : start ≤ stop)
    (hstop : stop ≤ t.length) : ∃ front kept lines behind,
      t = front ++ kept ++ lines ++ behind ∧ pos = front.length ∧ start = pos + kept.length ∧
        stop = pos + kept.length + lines.length := by
  refine ⟨t.take pos, (t.take start).drop pos, (t.take stop).drop start, t.drop stop, ?_, ?_, ?_, ?_⟩
  · have h1 : t.take pos ++ (t.take start).drop pos = t.take start := by
      rw [← Nat.min_eq_left h, ← List.take_take, Nat.min_eq_left h, List.take_append_drop]
    have h2 : t.take start ++ (t.take stop).drop start = t.take stop := by
      rw [← Nat.min_eq_left hle, ← List.take_take, Nat.min_eq_left hle, List.take_append_drop]
    rw [h1, h2, List.take_append_drop]
  · rw [List.length_take_of_le (by omega)]
  · rw [List.length_drop, List.length_take_of_le (by omega)]
    omega
  · rw [List.length_drop, List.length_drop, List.length_take_of_le (by omega),
      List.length_take_of_le hstop]
    omega

/-- From the last edit up every replacement finds its lines where they were. -/
theorem replaceUpwards_eq {edits : List Edit} {pos : Nat}
    (hp : edits.Pairwise fun a b => a.span.last < b.span.first)
    (hin : ∀ e ∈ edits, e.span.last < d.lineCount)
    (hpos : ∀ e ∈ edits.head?, ∀ start, d.lineStart e.span.first = .ok start → pos ≤ start) :
    ∃ new, d.replaceUpwards edits = .ok (d.text.take pos ++ new) ∧
      d.Rewrites pos edits (d.text.drop pos) new := by
  induction edits generalizing pos with
  | nil => exact ⟨d.text.drop pos, by simp [replaceUpwards], .rest pos _⟩
  | cons e more ih =>
    obtain ⟨hlt, hmore⟩ := List.pairwise_cons.1 hp
    obtain ⟨he, hin⟩ := List.forall_mem_cons.1 hin
    obtain ⟨start, stop, hstart, hstop, hle, hlen⟩ := exists_offsets he
    obtain ⟨front, kept, lines, behind, ht, rfl, rfl, rfl⟩ :=
      exists_parts (hpos e rfl start hstart) hle hlen
    have hnext : ∀ b ∈ more.head?, ∀ next, d.lineStart b.span.first = .ok next →
        front.length + kept.length + lines.length ≤ next := by
      intro b hb next hnext
      have hb := List.mem_of_mem_head? hb
      exact lineEnd_le_lineStart (hlt b hb) (Nat.lt_of_le_of_lt b.span.first_le_last (hin b hb)) hstop hnext
    obtain ⟨new, hnew, hr⟩ := ih hmore hin hnext
    have hfront : d.text.take front.length = front := by simp [ht]
    have hbehind : d.text.drop front.length = kept ++ lines ++ behind := by simp [ht]
    have hdone : d.text.take (front.length + kept.length + lines.length) = front ++ kept ++ lines := by
      rw [ht, List.take_left' (by simp [Nat.add_assoc])]
    have hopen : d.text.drop (front.length + kept.length + lines.length) = behind := by
      rw [ht, List.drop_left' (by simp [Nat.add_assoc])]
    refine ⟨kept ++ e.text ++ new, ?_, ?_⟩
    · have hcut : (front ++ kept ++ lines ++ new).take (front.length + kept.length) = front ++ kept := by
        rw [List.append_assoc, List.take_left' (by simp)]
      have hrest : (front ++ kept ++ lines ++ new).drop (front.length + kept.length + lines.length) =
          new := by
        rw [List.drop_left' (by simp [Nat.add_assoc])]
      rw [replaceUpwards, hnew, hdone, hfront]
      simp only [hstart, hstop, bind, Except.bind, pure, Except.pure, hcut, hrest]
      simp only [List.append_assoc]
    · rw [hopen] at hr
      rw [hbehind]
      exact .edit hstart hstop hr

end Document

theorem Edit.firstOverlap?_eq_none {edits : List Edit}
    (hp : edits.Pairwise fun a b => a.span.last < b.span.first) : Edit.firstOverlap? edits = none := by
  fun_induction Edit.firstOverlap? edits with
  | case1 a b more ho =>
    have := (List.pairwise_cons.1 hp).1 b (List.mem_cons_self ..)
    simp only [LineSpan.overlaps, Bool.and_eq_true, decide_eq_true_eq] at ho
    omega
  | case2 a b more _ ih => exact ih (List.pairwise_cons.1 hp).2
  | case3 => rfl

theorem Document.applyEdits_eq {d : Document} {edits : List Edit}
    (hp : edits.Pairwise fun a b => a.span.last < b.span.first) :
    d.applyEdits edits = (d.replaceUpwards edits).mapError .position := by
  have hsorted : Edit.inOrder edits = edits := by
    refine Sorted.ofList_eq_self _ (hp.imp fun {a b} h => ?_)
    exact Nat.le_trans a.span.first_le_last (Nat.le_of_lt h)
  rw [applyEdits, hsorted, Edit.firstOverlap?_eq_none hp]

/-- Edits that ascend and share no line are applied, and nothing but their lines is replaced. -/
theorem Document.exists_applyEdits {d : Document} {edits : List Edit}
    (hp : edits.Pairwise fun a b => a.span.last < b.span.first)
    (hin : ∀ e ∈ edits, e.span.last < d.lineCount) :
    ∃ t, d.applyEdits edits = .ok t ∧ d.Rewrites 0 edits d.text t := by
  have hfirst : ∀ e ∈ edits.head?, ∀ start, d.lineStart e.span.first = .ok start → 0 ≤ start :=
    fun _ _ _ _ => Nat.zero_le _
  obtain ⟨t, ht, hr⟩ := replaceUpwards_eq hp hin hfirst
  refine ⟨t, ?_, hr⟩
  rw [applyEdits_eq hp, ht]
  rfl

end ComponentFormat
