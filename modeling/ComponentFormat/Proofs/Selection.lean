import Mathlib.Data.List.Pairwise
import ComponentFormat.Region.Extraction

/-! # Keeping spans apart

Items in the order of their first lines are kept one by one unless they share a line with the item kept last.
Because the kept spans ascend, comparing with the last one is comparing with all: an item is kept exactly when no
kept item in front of it shares a line with it (`mem_apart_iff`). The kept items therefore depend only on which
items share a line and which of two such items comes first, and `mem_apart_congr` lets the spans move as long as
those relations survive around the kept items.
-/
namespace ComponentFormat

/-- Sorting is stable: items with one key are left in the order in which they came. -/
theorem Sorted.pairwise_ofList_stable {α : Type} {key : α → Nat} {R : α → α → Prop} {items : List α}
    (h : items.Pairwise R) :
    (ofList key items).Pairwise fun a b => key a < key b ∨ key a = key b ∧ R a b := by
  induction items with
  | nil => exact .nil
  | cons a more ih =>
    obtain ⟨ha, hmore⟩ := List.pairwise_cons.1 h
    have hrel : ∀ b ∈ ofList key more, R a b := fun b hb => ha b ((perm_ofList key more).mem_iff.1 hb)
    rw [ofList]
    generalize ofList key more = sorted at hrel ih
    have hsorted := ih hmore
    clear ih
    induction sorted with
    | nil => exact List.pairwise_singleton ..
    | cons b sorted ih =>
      obtain ⟨hb, hsorted⟩ := List.pairwise_cons.1 hsorted
      obtain ⟨hab, hrel⟩ := List.forall_mem_cons.1 hrel
      rw [insert]
      split
      · next hle =>
        refine List.pairwise_cons.2 ⟨fun c hc => ?_, List.pairwise_cons.2 ⟨hb, hsorted⟩⟩
        rcases List.mem_cons.1 hc with rfl | hc
        · exact (Nat.lt_or_eq_of_le hle).imp_right fun he => ⟨he, hab⟩
        · have hbc : key b ≤ key c := by
            rcases hb c hc with h | h <;> omega
          exact (Nat.lt_or_eq_of_le (Nat.le_trans hle hbc)).imp_right fun he => ⟨he, hrel c hc⟩
      · next hle =>
        refine List.pairwise_cons.2 ⟨fun c hc => ?_, ih hrel hsorted⟩
        rcases List.mem_cons.1 ((perm_insert key a sorted).mem_iff.1 hc) with rfl | hc
        · exact .inl (Nat.lt_of_not_le hle)
        · exact hb c hc

namespace Selection
variable {α : Type} (span : α → LineSpan)

/-- Keep an item unless it shares a line with the one kept last. -/
def apart (last : Option α) : List α → List α
  | [] => []
  | a :: more =>
    if last.any (fun k => (span k).overlaps (span a)) then apart last more else a :: apart (some a) more

theorem regions_keepApart (last : Option Region) (regions : List Region) :
    (Extraction.keepApart last regions).regions = apart Region.span last regions := by
  induction regions generalizing last with
  | nil => rfl
  | cons r more ih =>
    cases last with
    | none => simpa [Extraction.keepApart, apart] using ih (some r)
    | some k =>
      by_cases hk : k.span.overlaps r.span = true
      · simpa [Extraction.keepApart, apart, hk] using ih (some k)
      · simpa [Extraction.keepApart, apart, hk] using ih (some r)

theorem apart_map {β : Type} (f : β → α) (last : Option β) (items : List β) :
    apart span (last.map f) (items.map f) = (apart (fun b => span (f b)) last items).map f := by
  induction items generalizing last with
  | nil => rfl
  | cons b more ih =>
    have hany : (last.map f).any (fun k => (span k).overlaps (span (f b))) =
        last.any fun k => (span (f k)).overlaps (span (f b)) := by
      cases last <;> rfl
    have hsome := ih (some b)
    rw [Option.map_some] at hsome
    rw [List.map_cons, apart, apart, hany, ih, hsome]
    split <;> rfl

theorem apart_sublist (last : Option α) (items : List α) : (apart span last items).Sublist items := by
  induction items generalizing last with
  | nil => exact .slnil
  | cons a more ih =>
    rw [apart]
    split
    · exact (ih last).cons a
    · exact (ih (some a)).cons_cons a

/-- Two spans, the first starting no later, either share a line or follow one another. -/
theorem last_lt_first {s t : LineSpan} (hle : s.first ≤ t.first) (h : s.overlaps t = false) :
    s.last < t.first := by
  have ht := t.first_le_last
  simp only [LineSpan.overlaps, Bool.and_eq_false_iff, decide_eq_false_iff_not] at h
  omega

theorem overlaps_eq_false {s t : LineSpan} (h : s.last < t.first) : s.overlaps t = false := by
  simp only [LineSpan.overlaps, Bool.and_eq_false_iff, decide_eq_false_iff_not]
  omega

theorem overlaps_comm (s t : LineSpan) : s.overlaps t = t.overlaps s := by
  simp only [LineSpan.overlaps, Bool.and_comm]

theorem pairwise_apart {last : Option α} {items : List α}
    (hsorted : items.Pairwise fun a b => (span a).first ≤ (span b).first)
    (hlast : ∀ k ∈ last, ∀ a ∈ items, (span k).first ≤ (span a).first) :
    (∀ k ∈ last, ∀ a ∈ apart span last items, (span k).last < (span a).first) ∧
      (apart span last items).Pairwise fun a b => (span a).last < (span b).first := by
  induction items generalizing last with
  | nil => simp [apart]
  | cons a more ih =>
    obtain ⟨ha, hmore⟩ := List.pairwise_cons.1 hsorted
    rw [apart]
    split
    · exact ih hmore fun k hk b hb => hlast k hk b (List.mem_cons_of_mem _ hb)
    · next hk =>
      have hprev : ∀ k ∈ some a, ∀ b ∈ more, (span k).first ≤ (span b).first := by simpa using ha
      obtain ⟨hfirst, hrest⟩ := ih hmore hprev
      refine ⟨fun k hk' b hb => ?_, List.pairwise_cons.2 ⟨hfirst a rfl, hrest⟩⟩
      have hka : (span k).last < (span a).first := by
        refine last_lt_first (hlast k hk' a (List.mem_cons_self ..)) ?_
        simpa [Option.mem_def.1 hk'] using hk
      rcases List.mem_cons.1 hb with rfl | hb
      · exact hka
      · have hab := hfirst a rfl b hb
        have := (span a).first_le_last
        omega

theorem mem_apart_or_overlaps {last : Option α} {items : List α} {a : α} (ha : a ∈ items) :
    a ∈ apart span last items ∨
      ∃ k, (k ∈ last ∨ k ∈ apart span last items) ∧ (span k).overlaps (span a) = true := by
  induction items generalizing last with
  | nil => cases ha
  | cons b more ih =>
    rw [apart]
    split
    · next hk =>
      rcases List.mem_cons.1 ha with rfl | ha
      · cases last with
        | none => simp at hk
        | some k => exact .inr ⟨k, .inl rfl, by simpa using hk⟩
      · exact ih ha
    · rcases List.mem_cons.1 ha with rfl | ha
      · exact .inl (List.mem_cons_self ..)
      · rcases @ih (some b) ha with h | ⟨k, hk, ho⟩
        · exact .inl (List.mem_cons_of_mem _ h)
        · refine .inr ⟨k, .inr ?_, ho⟩
          rcases hk with hk | hk
          · cases hk
            exact List.mem_cons_self ..
          · exact List.mem_cons_of_mem _ hk

/-- Keep an item that shares no line with any item kept before it. -/
def greedy (taken : List α) : List α → List α
  | [] => []
  | a :: more =>
    if taken.any (fun k => (span k).overlaps (span a)) then greedy taken more else a :: greedy (a :: taken) more

theorem greedy_sublist (taken items : List α) : (greedy span taken items).Sublist items := by
  induction items generalizing taken with
  | nil => exact .slnil
  | cons a more ih =>
    rw [greedy]
    split
    · exact (ih taken).cons a
    · exact (ih (a :: taken)).cons_cons a

/-- Where the first lines ascend, the item kept last stands for all that are kept. -/
theorem apart_eq_greedy (last : Option α) (taken : List α) {items : List α}
    (hsorted : items.Pairwise fun a b => (span a).first ≤ (span b).first)
    (hlast : ∀ k ∈ last, k ∈ taken ∧ ∀ a ∈ items, (span k).first ≤ (span a).first)
    (htaken : ∀ k ∈ taken, k ∈ last ∨ ∀ a ∈ items, (span k).last < (span a).first) :
    apart span last items = greedy span taken items := by
  induction items generalizing last taken with
  | nil => rfl
  | cons a more ih =>
    obtain ⟨ha, hmore⟩ := List.pairwise_cons.1 hsorted
    have hsame : last.any (fun k => (span k).overlaps (span a)) =
        taken.any fun k => (span k).overlaps (span a) := by
      rw [Bool.eq_iff_iff, Option.any_eq_true, List.any_eq_true]
      constructor
      · rintro ⟨k, hk, ho⟩
        exact ⟨k, (hlast k hk).1, ho⟩
      · rintro ⟨k, hk, ho⟩
        rcases htaken k hk with hk | hk
        · exact ⟨k, hk, ho⟩
        · have := overlaps_eq_false (hk a (List.mem_cons_self ..))
          rw [ho] at this
          cases this
    rw [apart, greedy, hsame]
    split
    · refine ih last taken hmore (fun k hk => ⟨(hlast k hk).1, fun b hb => ?_⟩) fun k hk => ?_
      · exact (hlast k hk).2 b (List.mem_cons_of_mem _ hb)
      · exact (htaken k hk).imp_right fun hk b hb => hk b (List.mem_cons_of_mem _ hb)
    · next hnone =>
      rw [Bool.not_eq_true, List.any_eq_false] at hnone
      refine congrArg (a :: ·) (ih (some a) (a :: taken) hmore (by simpa using ha) fun k hk => ?_)
      rcases List.mem_cons.1 hk with rfl | hk
      · exact .inl rfl
      · have hka : (span k).last < (span a).first := by
          rcases htaken k hk with hl | hl
          · exact last_lt_first ((hlast k hl).2 a (List.mem_cons_self ..)) (Bool.eq_false_iff.2 (hnone k hk))
          · exact hl a (List.mem_cons_self ..)
        exact .inr fun b hb => Nat.lt_of_lt_of_le hka (ha b hb)

/-- What is kept is decided by the kept items in front of it. -/
theorem mem_greedy_iff {R : α → α → Prop} (hasymm : ∀ a b, R a b → ¬R b a) (taken : List α) {items : List α}
    (hp : items.Pairwise R) {a : α} (ha : a ∈ items) :
    a ∈ greedy span taken items ↔ (∀ k ∈ taken, (span k).overlaps (span a) = false) ∧
      ∀ k ∈ greedy span taken items, R k a → (span k).overlaps (span a) = false := by
  have hirrefl (x : α) : ¬R x x := fun h => hasymm x x h h
  induction items generalizing taken with
  | nil => cases ha
  | cons b more ih =>
    obtain ⟨hb, hmore⟩ := List.pairwise_cons.1 hp
    have hsub (taken : List α) : ∀ x ∈ greedy span taken more, R b x :=
      fun x hx => hb x ((greedy_sublist span taken more).subset hx)
    rw [greedy]
    split
    · next hany =>
      rcases List.mem_cons.1 ha with rfl | ha
      · refine iff_of_false (fun h => hirrefl a (hsub _ a h)) fun h => ?_
        obtain ⟨k, hk, ho⟩ := List.any_eq_true.1 hany
        rw [h.1 k hk] at ho
        cases ho
      · exact ih taken hmore ha
    · next hnone =>
      rw [Bool.not_eq_true, List.any_eq_false] at hnone
      rcases List.mem_cons.1 ha with rfl | ha
      · refine iff_of_true (List.mem_cons_self ..) ⟨fun k hk => Bool.eq_false_iff.2 (hnone k hk), fun k hk hka => ?_⟩
        rcases List.mem_cons.1 hk with rfl | hk
        · exact absurd hka (hirrefl k)
        · exact absurd hka (hasymm a k (hsub _ k hk))
      · have hne : a ≠ b := fun he => hirrefl b (he ▸ hb a ha)
        rw [List.mem_cons, or_iff_right hne]
        refine (ih (b :: taken) hmore ha).trans ?_
        rw [List.forall_mem_cons, List.forall_mem_cons]
        constructor
        · rintro ⟨⟨hba, htaken⟩, hkept⟩
          exact ⟨htaken, fun _ => hba, hkept⟩
        · rintro ⟨htaken, hba, hkept⟩
          exact ⟨⟨hba (hb a ha), htaken⟩, hkept⟩

section Order
variable (rank : α → Nat)

/-- By the first line, items on one line by their rank. -/
def Before (a b : α) : Prop :=
  (span a).first < (span b).first ∨ (span a).first = (span b).first ∧ rank a < rank b

variable {span rank}

theorem Before.first_le {a b : α} (h : Before span rank a b) : (span a).first ≤ (span b).first := by
  rcases h with h | h <;> omega

theorem Before.asymm {a b : α} (h : Before span rank a b) : ¬Before span rank b a := by
  rintro (h' | h') <;> rcases h with h | h <;> omega

theorem Before.lex {a b : α} (h : Before span rank a b) :
    Prod.Lex (· < ·) (· < ·) ((span a).first, rank a) ((span b).first, rank b) := by
  rcases h with h | ⟨h, hr⟩
  · exact .left _ _ h
  · rw [h]
    exact .right _ hr

theorem pairwise_ofList {items : List α} (h : items.Pairwise fun a b => rank a < rank b) :
    (Sorted.ofList (fun a => (span a).first) items).Pairwise (Before span rank) :=
  Sorted.pairwise_ofList_stable h

theorem Before.irrefl (a : α) : ¬Before span rank a a := fun h => h.asymm h

theorem mem_apart_iff {last : Option α} {items : List α} (hsorted : items.Pairwise (Before span rank))
    (hlast : ∀ k ∈ last, ∀ a ∈ items, Before span rank k a) {a : α} (ha : a ∈ items) :
    a ∈ apart span last items ↔ ∀ k, k ∈ last ∨ k ∈ apart span last items →
      Before span rank k a → (span k).overlaps (span a) = false := by
  rw [apart_eq_greedy span last last.toList (hsorted.imp Before.first_le)
    (fun k hk => ⟨by simpa using hk, fun b hb => (hlast k hk b hb).first_le⟩) fun k hk => .inl (by simpa using hk),
    mem_greedy_iff span (fun _ _ h => Before.asymm h) last.toList hsorted ha]
  simp only [Option.mem_toList]
  constructor
  · rintro ⟨hback, hfront⟩ k (hk | hk) hka
    · exact hback k hk
    · exact hfront k hk hka
  · intro h
    exact ⟨fun k hk => h k (.inl hk) (hlast k hk a ha), fun k hk hka => h k (.inr hk) hka⟩

/-- Two arrangements of the same items keep the same ones when, seen from a kept item of the first, no item that
shared no line with it comes to share one, and every dropped item behind it that shares a line still does and
still stands behind. -/
theorem mem_apart_congr {span' : α → LineSpan} {items items' : List α}
    (hmem : ∀ a, a ∈ items' ↔ a ∈ items)
    (hsorted : items.Pairwise (Before span rank)) (hsorted' : items'.Pairwise (Before span' rank))
    (hnew : ∀ k ∈ apart span none items, ∀ a ∈ items, (span' k).overlaps (span' a) = true →
      (span k).overlaps (span a) = true)
    (hold : ∀ k ∈ apart span none items, ∀ a ∈ items, a ∉ apart span none items → Before span rank k a →
      (span k).overlaps (span a) = true → Before span' rank k a ∧ (span' k).overlaps (span' a) = true)
    (a : α) (ha : a ∈ items) : a ∈ apart span' none items' ↔ a ∈ apart span none items := by
  have hkept : (apart span none items).Pairwise fun a b => (span a).overlaps (span b) = false :=
    (pairwise_apart span (hsorted.imp Before.first_le) (by simp)).2.imp overlaps_eq_false
  have : Std.Symm fun a b : α => (span a).overlaps (span b) = false :=
    ⟨fun a b h => by rwa [overlaps_comm]⟩
  rw [mem_apart_iff hsorted' (by simp) ((hmem a).2 ha)]
  constructor
  · intro h
    by_contra hna
    have hstep := (mem_apart_iff hsorted (by simp) ha).not.1 hna
    simp only [Option.mem_def, reduceCtorEq, false_or, not_forall, Bool.not_eq_false] at hstep
    obtain ⟨k, hk, hka, ho⟩ := hstep
    obtain ⟨hka', ho'⟩ := hold k hk a ha hna hka ho
    have hki : k ∈ items := (apart_sublist span none items).subset hk
    have := h k (.inr ((mem_apart_congr hmem hsorted hsorted' hnew hold k hki).2 hk)) hka'
    rw [ho'] at this
    cases this
  · rintro h k (hk | hk) hka
    · cases hk
    · have hki : k ∈ items := (hmem k).1 ((apart_sublist span' none items').subset hk)
      have hk := (mem_apart_congr hmem hsorted hsorted' hnew hold k hki).1 hk
      have hne : k ≠ a := by rintro rfl; exact Before.irrefl k hka
      refine Bool.eq_false_iff.2 fun ho => ?_
      have ho := hnew k hk a ha ho
      rw [hkept.forall hk h hne] at ho
      cases ho
termination_by ((span' a).first, rank a)
decreasing_by
  · exact hka'.lex
  · exact hka.lex

end Order

end Selection

end ComponentFormat
