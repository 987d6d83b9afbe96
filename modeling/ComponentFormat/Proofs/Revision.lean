import Mathlib.Data.List.Sort
import ComponentFormat.Proofs.Layout

/-! # Changing one block of an assembly

A revision of an assembly changes blanks and terminators, and no block but one gets a terminator that had none. If the
block is one that becomes a region, the same blocks become regions as before. The others are on the same lines as
before when they stand in front, and on as many lines when they stand behind.
-/
namespace ComponentFormat

/-- What is read back is determined by the text. -/
theorem Block.Spelled.unique {b b' : Block} {t t' : Text} (h : b.Spelled) (h' : b'.Spelled)
    (ht : b.source ++ t = b'.source ++ t') : b = b' ∧ t = t' :=
  (h.stands t).unique (h'.stands t') ht

namespace Assembly
variable {a a' : Assembly} {k : Nat}

theorem pairwise_kept (a : Assembly) : a.kept.Pairwise fun i j => (a.span i).last < (a.span j).first :=
  (Selection.pairwise_apart _ (Sorted.pairwise_ofList _ _) (by simp)).2

theorem mem_queue {i : Nat} : i ∈ a.queue ↔ i ∈ a.candidates := (Sorted.perm_ofList _ _).mem_iff

theorem lt_of_mem_kept {i : Nat} (h : i ∈ a.kept) : i < a.row.length :=
  a.lt_of_mem_candidates (mem_queue.1 ((Selection.apart_sublist ..).subset h))

theorem sorted_kept (a : Assembly) : a.kept.Pairwise (· < ·) := by
  refine a.pairwise_kept.imp_of_mem fun {i j} hi _ hlt => ?_
  have hi := lt_of_mem_kept hi
  refine Nat.lt_of_not_le fun hle => ?_
  have := (a.span i).first_le_last
  have := (a.span j).first_le_last
  rcases Nat.lt_or_eq_of_le hle with hji | rfl
  · have := last_le_first hji hi
    omega
  · omega

theorem last_lt_first {i j : Nat} (hi : i ∈ a.kept) (hj : j ∈ a.kept) (hij : i < j) :
    (a.span i).last < (a.span j).first := by
  have happart : a.kept.Pairwise fun i j => (a.span i).overlaps (a.span j) = false :=
    a.pairwise_kept.imp Selection.overlaps_eq_false
  have : Std.Symm fun i j => (a.span i).overlaps (a.span j) = false :=
    ⟨fun i j h => by rwa [Selection.overlaps_comm]⟩
  have hle := Nat.le_trans (a.span i).first_le_last (last_le_first hij (lt_of_mem_kept hj))
  exact Selection.last_lt_first hle (happart.forall hi hj (Nat.ne_of_lt hij))

theorem nodup_candidates (a : Assembly) : a.candidates.Nodup := by
  have hslot (s : Slot) : ((List.range a.row.length).filter fun i => (a.block i).slot = s).Nodup :=
    List.nodup_range.filter _
  have hapart {s s' : Slot} (hne : s ≠ s') {i j : Nat} (hi : (a.block i).slot = s) (hj : (a.block j).slot = s') :
      i ≠ j := by
    rintro rfl
    exact hne (hi.symm.trans hj)
  simp only [candidates, List.nodup_append, hslot, List.mem_append, List.mem_filter, decide_eq_true_eq, true_and]
  refine ⟨⟨?_, ?_⟩, ?_⟩
  · exact fun i hi j hj => hapart (by decide) hi.2 hj.2
  · rintro i (hi | hi) j hj <;> exact hapart (by decide) hi.2 hj.2
  · rintro i ((hi | hi) | hi) j hj <;> exact hapart (by decide) hi.2 hj.2

theorem exists_rank (a : Assembly) : ∃ rank : Nat → Nat, a.candidates.Pairwise fun i j => rank i < rank j := by
  refine ⟨a.candidates.idxOf, List.pairwise_iff_getElem.2 fun i j hi hj hij => ?_⟩
  dsimp only
  rwa [a.nodup_candidates.idxOf_getElem, a.nodup_candidates.idxOf_getElem]

/-- The block ends on the line on which the next one starts when no terminator stands between them. -/
theorem last_eq_first_succ {i : Nat} (h : i + 1 < a.row.length) :
    (a.span i).last = (a.span (i + 1)).first ↔ ¬(a.gap i).HasBreak := by
  rw [first_span_succ h, ← Text.breaks_eq_zero_iff]
  omega

theorem last_eq_first_succ_of_lt {i j : Nat} (hij : i < j) (h : j + 1 < a.row.length) :
    (a.span i).last = (a.span (j + 1)).first ↔
      (a.span i).last = (a.span j).first ∧ ¬(a.block j).source.HasBreak ∧ ¬(a.gap j).HasBreak := by
  have hj : j < a.row.length := by omega
  have := last_le_first hij hj
  rw [first_span_succ h, last_span hj, ← Text.breaks_eq_zero_iff, ← Text.breaks_eq_zero_iff]
  omega

theorem first_eq_last {i : Nat} (h : i < a.row.length) :
    (a.span i).first = (a.span i).last ↔ ¬(a.block i).source.HasBreak := by
  rw [last_span h, ← Text.breaks_eq_zero_iff]
  omega

/-- The assembly `a'` has as many blocks as `a` in the same slots, and only block `k` may have a terminator where there
was none. -/
structure Alters (a a' : Assembly) (k : Nat) : Prop where
  length : a'.row.length = a.row.length
  slot : ∀ i, (a'.block i).slot = (a.block i).slot
  broken : ∀ i, (a.block i).source.HasBreak → (a'.block i).source.HasBreak
  unbroken : ∀ i ≠ k, (a'.block i).source.HasBreak → (a.block i).source.HasBreak
  gap : ∀ i, i + 1 < a.row.length → ((a'.gap i).HasBreak ↔ (a.gap i).HasBreak)

/-- The assembly `a'` alters `a` in blanks alone. -/
structure Revises (a a' : Assembly) (k : Nat) : Prop extends Alters a a' k where
  lead_solids : a'.lead.solids = a.lead.solids
  block_solids : ∀ i, (a'.block i).source.solids = (a.block i).source.solids
  gap_solids : ∀ i, (a'.gap i).solids = (a.gap i).solids

namespace Alters
variable (h : a.Alters a' k)
include h

theorem candidates_eq : a'.candidates = a.candidates := by
  simp only [candidates, h.length, h.slot]

/-- A block that ends where another starts in the revision did so before. -/
theorem last_eq_first {i j : Nat} (hij : i < j) (hj : j < a.row.length)
    (he : (a'.span i).last = (a'.span j).first) : (a.span i).last = (a.span j).first := by
  have hlen := h.length
  induction j with
  | zero => omega
  | succ j ih =>
    rcases Nat.lt_or_eq_of_le (Nat.le_of_lt_succ hij) with hlt | rfl
    · obtain ⟨he, hs, hg⟩ := (last_eq_first_succ_of_lt hlt (by omega)).1 he
      exact (last_eq_first_succ_of_lt hlt hj).2 ⟨ih hlt (by omega) he, mt (h.broken j) hs, mt (h.gap j hj).2 hg⟩
    · exact (last_eq_first_succ hj).2 (mt (h.gap i hj).2 ((last_eq_first_succ (by omega)).1 he))

/-- It still does, unless the changed block stands between the two on that line. -/
theorem last_eq_first_or {i j : Nat} (hij : i < j) (hj : j < a.row.length)
    (he : (a.span i).last = (a.span j).first) :
    (a'.span i).last = (a'.span j).first ∨
      (i < k ∧ k < j) ∧ (a.span i).last = (a.span k).first ∧ (a.span k).last = (a.span j).first := by
  have hlen := h.length
  induction j with
  | zero => omega
  | succ j ih =>
    rcases Nat.lt_or_eq_of_le (Nat.le_of_lt_succ hij) with hlt | rfl
    · obtain ⟨he', hs, hg⟩ := (last_eq_first_succ_of_lt hlt hj).1 he
      have hj' : j < a.row.length := by omega
      rcases ih hlt hj' he' with h' | ⟨⟨hik, hkj⟩, hfront, hback⟩
      · by_cases hjk : j = k
        · subst hjk
          have := (first_eq_last hj').2 hs
          exact .inr ⟨⟨hlt, Nat.lt_succ_self j⟩, he', by omega⟩
        · exact .inl ((last_eq_first_succ_of_lt hlt (by omega)).2
            ⟨h', mt (h.unbroken j hjk) hs, mt (h.gap j hj).1 hg⟩)
      · exact .inr ⟨⟨hik, by omega⟩, hfront, by omega⟩
    · exact .inl ((last_eq_first_succ (by omega)).2 (mt (h.gap i hj).1 ((last_eq_first_succ hj).1 he)))

/-- A block that shares a line with a region and is looked at later does so in the revision too. -/
theorem before_of_overlaps {rank : Nat → Nat} {i j : Nat} (hk : k ∈ a.kept) (hj : j ∈ a.kept) (hi : i < a.row.length)
    (hn : i ∉ a.kept) (hbefore : Selection.Before a.span rank j i) (ho : (a.span j).overlaps (a.span i) = true) :
    Selection.Before a'.span rank j i ∧ (a'.span j).overlaps (a'.span i) = true := by
  have hlen := h.length
  have hj' := lt_of_mem_kept hj
  rcases Nat.lt_trichotomy j i with hji | rfl | hij
  · have he := (overlaps_iff hji hi).1 ho
    rcases h.last_eq_first_or hji hi he with he' | ⟨⟨hjk, -⟩, hfront, -⟩
    · refine ⟨?_, (overlaps_iff hji (by omega)).2 he'⟩
      rcases Nat.lt_or_eq_of_le (a'.span j).first_le_last with hlt | heq
      · exact .inl (by omega)
      · have hsame := (first_eq_last hj').2 (mt (h.broken j) ((first_eq_last (by omega)).1 heq))
        rcases hbefore with hb | ⟨-, hr⟩
        · omega
        · exact .inr ⟨by omega, hr⟩
    · have := last_lt_first hj hk hjk
      omega
  · exact absurd hj hn
  · rw [Selection.overlaps_comm] at ho ⊢
    have he := (overlaps_iff hij hj').1 ho
    have hle := (a.span i).first_le_last
    -- The region starts no later than the other block ends, so that block is all on the line of the region.
    have hline : (a.span i).first = (a.span i).last ∧ rank j < rank i := by
      rcases hbefore with hb | ⟨hb, hr⟩
      · omega
      · exact ⟨by omega, hr⟩
    have hne : i ≠ k := by
      rintro rfl
      exact hn hk
    have hline' := (first_eq_last (by omega)).2 (mt (h.unbroken i hne) ((first_eq_last hi).1 hline.1))
    rcases h.last_eq_first_or hij hj' he with he' | ⟨⟨-, hkj⟩, -, hback⟩
    · exact ⟨.inr ⟨by omega, hline.2⟩, (overlaps_iff hij (by omega)).2 he'⟩
    · have := last_lt_first hk hj hkj
      omega

theorem overlaps {i j : Nat} (hi : i < a.row.length) (hj : j < a.row.length)
    (ho : (a'.span j).overlaps (a'.span i) = true) : (a.span j).overlaps (a.span i) = true := by
  have hlen := h.length
  rcases Nat.lt_trichotomy j i with hji | rfl | hij
  · exact (overlaps_iff hji hi).2 (h.last_eq_first hji hi ((overlaps_iff hji (by omega)).1 ho))
  · have := (a.span j).first_le_last
    simp [LineSpan.overlaps, this]
  · rw [Selection.overlaps_comm] at ho ⊢
    exact (overlaps_iff hij hj).2 (h.last_eq_first hij hj ((overlaps_iff hij (by omega)).1 ho))

theorem kept_eq (hk : k ∈ a.kept) : a'.kept = a.kept := by
  obtain ⟨rank, hrank⟩ := a.exists_rank
  have hsorted : a.queue.Pairwise (Selection.Before a.span rank) := Selection.pairwise_ofList hrank
  have hsorted' : a'.queue.Pairwise (Selection.Before a'.span rank) :=
    Selection.pairwise_ofList (h.candidates_eq ▸ hrank)
  have hmem : ∀ i, i ∈ a'.queue ↔ i ∈ a.queue := fun i => by rw [mem_queue, mem_queue, h.candidates_eq]
  have hlt : ∀ i ∈ a.queue, i < a.row.length := fun i hi => a.lt_of_mem_candidates (mem_queue.1 hi)
  have hkept := Selection.mem_apart_congr hmem hsorted hsorted'
    (fun j hj i hi ho => h.overlaps (hlt i hi) (lt_of_mem_kept hj) ho)
    (fun j hj i hi hn hbefore ho => h.before_of_overlaps hk hj (hlt i hi) hn hbefore ho)
  refine List.Pairwise.eq_of_mem_iff a'.sorted_kept a.sorted_kept fun i => ?_
  by_cases hi : i ∈ a.queue
  · exact hkept i hi
  · have hi' : i ∉ a'.queue := mt (hmem i).1 hi
    exact iff_of_false (mt ((Selection.apart_sublist ..).subset ·) hi') (mt ((Selection.apart_sublist ..).subset ·) hi)

end Alters

namespace Revises
variable (h : a.Revises a' k)
include h

theorem front_solids (i : Nat) : (a'.front i).solids = (a.front i).solids := by
  induction i with
  | zero => simp [front, Row.text, h.lead_solids]
  | succ i ih => simp [front_succ, ih, h.block_solids, h.gap_solids]

/-- A block with as much in front of it as block `i` is block `i` of the revision. -/
theorem block_unique {i : Nat} (hi : i < a.row.length) {b : Block} (hb : b.Spelled) {x y : Text}
    (ht : a'.text = x ++ b.source ++ y) (hx : x.solids = (a.front i).solids) :
    a'.front i = x ∧ a'.block i = b ∧ a'.behind i = y := by
  have hb' := a'.spelled_block (h.length ▸ hi)
  obtain ⟨u, hu⟩ := hb.bracketed
  obtain ⟨v, hv⟩ := hb'.bracketed
  have htext := (a'.text_eq i).symm.trans ht
  have hfront : a'.front i = x := by
    have htext : a'.front i ++ '<' :: (v ++ '>' :: a'.behind i) = x ++ '<' :: (u ++ '>' :: y) := by
      simpa [hu, hv] using htext
    exact Text.eq_of_solids (by decide) (by decide) htext ((h.front_solids i).trans hx.symm)
  rw [hfront, List.append_assoc, List.append_assoc] at htext
  exact ⟨hfront, hb'.unique hb (List.append_cancel_left htext)⟩

end Revises

/-- The text up to the lines of a block and the text behind them. -/
structure Around (a : Assembly) (k : Nat) (head tail : Text) : Prop where
  front : a.front k = head ++ (a.front k).lastLine
  behind : a.behind k = (a.behind k).firstLine ++ tail
  head_ends : ∀ c ∈ head.getLast?, isBreak c = true
  tail_starts : ∀ c ∈ tail.head?, isBreak c = true

theorem exists_around (a : Assembly) (k : Nat) : ∃ head tail, a.Around k head tail := by
  obtain ⟨head, hfront, hends⟩ := (a.front k).exists_append_lastLine
  obtain ⟨tail, hbehind, hstarts⟩ := (a.behind k).exists_firstLine_append
  exact ⟨head, tail, hfront, hbehind, hends, hstarts⟩

def lines (a : Assembly) (k : Nat) : Text :=
  (a.front k).lastLine ++ (a.block k).source ++ (a.behind k).firstLine

theorem Around.append {head tail : Text} (h : a.Around k head tail) (t : Text) :
    a.front k ++ t ++ a.behind k = head ++ ((a.front k).lastLine ++ t ++ (a.behind k).firstLine) ++ tail := by
  calc a.front k ++ t ++ a.behind k =
      head ++ (a.front k).lastLine ++ t ++ ((a.behind k).firstLine ++ tail) := by rw [← h.front, ← h.behind]
    _ = head ++ ((a.front k).lastLine ++ t ++ (a.behind k).firstLine) ++ tail := by simp only [List.append_assoc]

theorem Around.text {head tail : Text} (h : a.Around k head tail) : a.text = head ++ a.lines k ++ tail := by
  rw [a.text_eq k, h.append, lines]

/-- Neither the first nor the last character of the lines of a block is one of a terminator. -/
theorem lines_ends (hk : k < a.row.length) :
    (∃ c ∈ (a.lines k).head?, isBreak c = false) ∧ ∃ c ∈ (a.lines k).getLast?, isBreak c = false := by
  have hb := (a.spelled_block hk).bracketed
  have hmem {c : Char} {t : Text} (ht : ¬t.HasBreak) (hc : c ∈ t) : isBreak c = false :=
    Bool.eq_false_iff.2 fun hbreak => ht ⟨c, hc, hbreak⟩
  constructor
  · rw [lines, List.append_assoc]
    cases hl : (a.front k).lastLine with
    | nil => exact ⟨'<', hb.head? _, by decide⟩
    | cons c l => exact ⟨c, rfl, hmem (Text.not_hasBreak_lastLine (a.front k)) (by simp [hl])⟩
  · rw [lines]
    rcases List.eq_nil_or_concat (a.behind k).firstLine with hl | ⟨l, c, hl⟩
    · exact ⟨'>', by rw [hl, List.append_nil]; exact hb.getLast? _, by decide⟩
    · refine ⟨c, by simp [hl], hmem (Text.not_hasBreak_firstLine (a.behind k)) (by simp [hl])⟩

section
variable (path : String)

theorem offsets_lines (hk : k < a.row.length) {head tail : Text} (h : a.Around k head tail) :
    (a.document path).lineStart (a.span k).first = .ok head.length ∧
      (a.document path).lineEnd (a.span k).last = .ok (head ++ a.lines k).length := by
  have hs : (a.placedAt k).Sits (a.front k) (a.behind k) (a.document path).text := a.sits hk
  have hlen := congrArg List.length h.front
  rw [List.length_append] at hlen
  constructor
  · refine (Document.lineStart_of_extent? (Region.extent?_first (a.kind k) hs)).trans (congrArg _ ?_)
    dsimp only
    omega
  · refine (Document.lineEnd_of_extent? (Region.extent?_last (a.kind k) hs)).trans (congrArg _ ?_)
    have hblock : (a.placedAt k).block.source.length = (a.block k).source.length := rfl
    simp only [lines, List.length_append, hblock]
    omega

variable {i : Nat} (hi : i < a.row.length) (hi' : i < a'.row.length) (hfront : a'.front i = a.front i)
  (hblock : a'.block i = a.block i)
include hi hi' hfront hblock

theorem span_eq : a'.span i = a.span i := by
  refine LineSpan.eq_of_ends ?_ ?_
  · rw [first_span hi', first_span hi, hfront]
  · rw [last_span hi', last_span hi, first_span hi', first_span hi, hfront, hblock]

/-- The lines of a block are at the same offsets when the text in front and on these lines is the same. -/
theorem offsets_eq (hbehind : (a'.behind i).firstLine = (a.behind i).firstLine) :
    (a'.document path).lineStart (a.span i).first = (a.document path).lineStart (a.span i).first ∧
      (a'.document path).lineEnd (a.span i).last = (a.document path).lineEnd (a.span i).last := by
  obtain ⟨head, tail, h⟩ := a.exists_around i
  obtain ⟨head', tail', h'⟩ := a'.exists_around i
  obtain ⟨hstart, hstop⟩ := offsets_lines path hi h
  obtain ⟨hstart', hstop'⟩ := offsets_lines path hi' h'
  have hhead := h'.front.symm.trans (hfront.trans h.front)
  rw [hfront] at hhead
  rw [span_eq hi hi' hfront hblock, List.append_cancel_right hhead] at hstart' hstop'
  rw [lines, hfront, hblock, hbehind, ← lines] at hstop'
  exact ⟨hstart'.trans hstart.symm, hstop'.trans hstop.symm⟩

end

theorem exists_between {i j : Nat} (hij : i < j) : ∃ m, a.front j = a.front i ++ (a.block i).source ++ m ∧
    a.behind i = m ++ ((a.block j).source ++ a.behind j) := by
  obtain ⟨m, hm⟩ : ∃ m, a.front j = a.front i ++ (a.block i).source ++ m := by
    induction j with
    | zero => omega
    | succ j ih =>
      rcases Nat.lt_or_eq_of_le (Nat.le_of_lt_succ hij) with hlt | rfl
      · obtain ⟨m, hm⟩ := ih hlt
        exact ⟨m ++ (a.block j).source ++ a.gap j, by rw [front_succ, hm]; simp⟩
      · exact ⟨_, a.front_succ i⟩
  refine ⟨m, hm, ?_⟩
  have ht := (a.text_eq i).symm.trans (a.text_eq j)
  rw [hm, List.append_assoc _ m, List.append_assoc _ (m ++ _), List.append_assoc m] at ht
  exact List.append_cancel_left ht

/-- Between blocks without a common line the text goes on with a terminator where the line of the first ends. -/
theorem exists_break {i j : Nat} (hi : i < a.row.length) (hj : j < a.row.length) (hij : i < j)
    (hlt : (a.span i).last < (a.span j).first) : ∃ w c m, ¬Text.HasBreak w ∧ isBreak c = true ∧
      a.front j = a.front i ++ (a.block i).source ++ (w ++ c :: m) ∧
      a.behind i = w ++ c :: (m ++ ((a.block j).source ++ a.behind j)) := by
  obtain ⟨m, hfront, hbehind⟩ := exists_between (a := a) hij
  have hbreak : m.HasBreak := by
    rw [first_span hj, hfront, breaks_behind hi] at hlt
    exact Text.breaks_pos_iff.1 (by omega)
  obtain ⟨t, ht, hhead⟩ := m.exists_firstLine_append
  have hnone := m.not_hasBreak_firstLine
  cases t with
  | nil =>
    rw [List.append_nil] at ht
    exact absurd (ht ▸ hbreak) hnone
  | cons c t =>
    refine ⟨m.firstLine, c, t, hnone, hhead c rfl, ?_, ?_⟩
    · rw [hfront, ← ht]
    · rw [hbehind]
      conv => lhs; rw [ht]
      simp

namespace Revises
variable {head tail new : Text} (h : a.Revises a' k) (hk : k ∈ a.kept) (haround : a.Around k head tail)
  (ht : a'.text = head ++ new ++ tail)
include h hk haround ht

/-- A region in front stands where it stood. -/
theorem above {i : Nat} (hi : i ∈ a.kept) (hik : i < k) :
    a'.front i = a.front i ∧ a'.block i = a.block i ∧ (a'.behind i).firstLine = (a.behind i).firstLine := by
  have hi' := lt_of_mem_kept hi
  obtain ⟨w, c, m, hw, hc, hfront, hbehind⟩ := exists_break hi' (lt_of_mem_kept hk) hik (last_lt_first hi hk hik)
  rw [haround.front, ← List.append_assoc] at hfront
  obtain ⟨m', rfl⟩ := Text.exists_of_append_eq (Text.not_hasBreak_lastLine _) hc hfront
  have htext : a'.text = a.front i ++ (a.block i).source ++ (w ++ c :: (m' ++ new ++ tail)) := by
    rw [ht]
    simp
  obtain ⟨hf, hb, hy⟩ := h.block_unique hi' (a.spelled_block hi') htext rfl
  exact ⟨hf, hb, by rw [hy, hbehind, Text.firstLine_append_break hw hc, Text.firstLine_append_break hw hc]⟩

/-- A region behind stands on the same lines, be it that they have moved. -/
theorem below (hsolids : new.solids = (a.lines k).solids) {i : Nat} (hi : i ∈ a.kept) (hki : k < i) :
    (a'.front i).lastLine = (a.front i).lastLine ∧ a'.block i = a.block i ∧ a'.behind i = a.behind i := by
  have hi' := lt_of_mem_kept hi
  obtain ⟨w, c, m, hw, hc, hfront, hbehind⟩ := exists_break (lt_of_mem_kept hk) hi' hki (last_lt_first hk hi hki)
  have hfirst : (a.behind k).firstLine = w := by rw [hbehind, Text.firstLine_append_break hw hc]
  have htail : tail = c :: (m ++ ((a.block i).source ++ a.behind i)) := by
    have := haround.behind
    rw [hfirst] at this
    exact List.append_cancel_left (this.symm.trans hbehind)
  have hx : a.front i = head ++ a.lines k ++ c :: m := by
    calc a.front i = a.front k ++ (a.block k).source ++ (w ++ c :: m) := hfront
      _ = head ++ (a.front k).lastLine ++ (a.block k).source ++ (w ++ c :: m) := by rw [← haround.front]
      _ = head ++ a.lines k ++ c :: m := by simp [Assembly.lines, hfirst]
  have htext : a'.text = head ++ new ++ c :: m ++ (a.block i).source ++ a.behind i := by
    rw [ht, htail]
    simp
  obtain ⟨hf, hb, hy⟩ := h.block_unique hi' (a.spelled_block hi') htext (by rw [hx]; simp [hsolids])
  exact ⟨by rw [hf, hx, Text.lastLine_append_cons hc, Text.lastLine_append_cons hc], hb, hy⟩

variable {path : String} (hends : (a'.document path).terminator = (a.document path).terminator)
include hends

/-- A region in front is the same region, on lines at the same offsets. -/
theorem region_above {i : Nat} (hi : i ∈ a.kept) (hik : i < k) : a'.region path i = a.region path i ∧
    (a'.document path).lineStart (a.region path i).span.first =
      (a.document path).lineStart (a.region path i).span.first ∧
    (a'.document path).lineEnd (a.region path i).span.last = (a.document path).lineEnd (a.region path i).span.last := by
  obtain ⟨hf, hb, hy⟩ := h.above hk haround ht hi hik
  have hi' := lt_of_mem_kept hi
  have hs : (a.placedAt i).Sits (a.front i) (a.behind i) (a.document path).text := a.sits hi'
  have hs' : (a'.placedAt i).Sits (a'.front i) (a'.behind i) (a'.document path).text := a'.sits (h.length ▸ hi')
  have hplaced : a'.placedAt i = a.placedAt i := by rw [placedAt, placedAt, hf, hb]
  have hkind : a'.kind i = a.kind i := by rw [kind, kind, h.slot]
  rw [hplaced, hf] at hs'
  have hspan : (Region.ofBlock (a'.document path) (a.kind i) (a.placedAt i)).span =
      (Region.ofBlock (a.document path) (a.kind i) (a.placedAt i)).span := by
    have hsame := span_eq hi' (h.length ▸ hi') hf hb
    rw [span, hplaced] at hsame
    exact hsame
  refine ⟨?_, offsets_eq path hi' (h.length ▸ hi') hf hb hy⟩
  have := Region.ofBlock_eq_with_span (a.kind i) hs hs' rfl rfl hy hends
  rw [hspan] at this
  rw [region, hkind, hplaced, this]
  rfl

/-- A region behind is the same region but for its lines. -/
theorem region_below (hsolids : new.solids = (a.lines k).solids) {i : Nat} (hi : i ∈ a.kept) (hki : k < i) :
    a'.region path i = { a.region path i with span := (a'.region path i).span } := by
  obtain ⟨hf, hb, hy⟩ := h.below hk haround ht hsolids hi hki
  have hi' := lt_of_mem_kept hi
  have hs : (a.placedAt i).Sits (a.front i) (a.behind i) (a.document path).text := a.sits hi'
  have hs' : (a'.placedAt i).Sits (a'.front i) (a'.behind i) (a'.document path).text := a'.sits (h.length ▸ hi')
  have hkind : a'.kind i = a.kind i := by rw [kind, kind, h.slot]
  have := Region.ofBlock_eq_with_span (a.kind i) hs hs' hb hf (by rw [hy]) hends
  rwa [region, hkind]

end Revises

end Assembly

end ComponentFormat
