import Mathlib.Data.List.Sort
import ComponentFormat.Proofs.Assembly

/-! # Which of two blocks on a line becomes a region

The blocks to format come one by one, by the lines on which they start, those of one line kind by kind, and a block
becomes a region unless it shares a line with one that has become a region before. This is the order of the text where
blocks start on different lines. Where some start on one line, a template or a script comes before the blocks in front
of it that are of a later kind, and so the regions are those that the order of the text gives exactly when the first
block on each line is of no later kind than the others (`Extraction.regions_greedy`).
-/
namespace ComponentFormat

namespace Selection
variable {α : Type} {span : α → LineSpan}

section
variable {R : α → α → Prop} (hasymm : ∀ a b, R a b → ¬R b a) (htrans : ∀ a b c, R a b → R b c → R a c)
  {items : List α} (hp : items.Pairwise R)
include hasymm htrans hp

/-- Of the items that start on one line no other than the first one is kept. -/
theorem not_rel_of_mem_greedy (hfirst : ∀ a ∈ items, ∀ b ∈ items, R a b → (span a).first ≤ (span b).first) {a b : α}
    (ha : a ∈ greedy span [] items) (hb : b ∈ items) (hline : (span b).first = (span a).first) : ¬R b a := by
  intro hba
  have hfront := ((mem_greedy_iff span hasymm [] hp ((greedy_sublist ..).subset ha)).1 ha).2
  have ha' := (span a).first_le_last
  have hb' := (span b).first_le_last
  by_cases hkept : b ∈ greedy span [] items
  · have := hfront b hkept hba
    simp only [LineSpan.overlaps, Bool.and_eq_false_iff, decide_eq_false_iff_not] at this
    omega
  · rw [mem_greedy_iff span hasymm [] hp hb] at hkept
    simp only [List.not_mem_nil, false_imp_iff, implies_true, true_and, not_forall, Bool.not_eq_false] at hkept
    -- what keeps `b` away keeps `a` away
    obtain ⟨k, hk, hkb, ho⟩ := hkept
    have hle := hfirst k ((greedy_sublist ..).subset hk) b hb hkb
    have := hfront k hk (htrans k b a hkb hba)
    simp only [LineSpan.overlaps, Bool.and_eq_false_iff, decide_eq_false_iff_not, Bool.and_eq_true,
      decide_eq_true_eq] at this ho
    omega

end

section
variable (span) (rank start : α → Nat)

/-- By the first line, on one line by the rank, and with one rank by the start. -/
def Precedes (a b : α) : Prop :=
  (span a).first < (span b).first ∨
    (span a).first = (span b).first ∧ (rank a < rank b ∨ rank a = rank b ∧ start a < start b)

variable {span rank start}

theorem Precedes.asymm (a b : α) (h : Precedes span rank start a b) : ¬Precedes span rank start b a := by
  unfold Precedes at *
  omega

theorem Precedes.trans (a b c : α) (h : Precedes span rank start a b) (h' : Precedes span rank start b c) :
    Precedes span rank start a c := by
  unfold Precedes at *
  omega

theorem Precedes.first_le {a b : α} (h : Precedes span rank start a b) : (span a).first ≤ (span b).first := by
  unfold Precedes at h
  omega

variable {items queue : List α} (hperm : queue.Perm items)
  (hsource : items.Pairwise fun a b => start a < start b ∧ (span a).first ≤ (span b).first)
  (hqueue : queue.Pairwise (Precedes span rank start))

include hsource in
theorem source_lt {a b : α} (ha : a ∈ items) (hb : b ∈ items)
    (hlt : (span a).first < (span b).first ∨ start a < start b) :
    start a < start b ∧ (span a).first ≤ (span b).first := by
  have hne : a ≠ b := by
    rintro rfl
    omega
  have : Std.Symm fun a b : α => start a < start b ∧ (span a).first ≤ (span b).first ∨
      start b < start a ∧ (span b).first ≤ (span a).first := ⟨fun _ _ h => h.symm⟩
  have hboth : items.Pairwise fun a b => start a < start b ∧ (span a).first ≤ (span b).first ∨
      start b < start a ∧ (span b).first ≤ (span a).first := hsource.imp Or.inl
  rcases hboth.forall ha hb hne with h | h <;> omega

include hperm hsource hqueue

/-- The same items are kept in both orders if what the order of the text keeps on a line has the lowest rank on it. -/
theorem mem_greedy_iff_of_leads
    (hleads : ∀ k ∈ greedy span [] items, ∀ b ∈ items, (span b).first = (span k).first → rank k ≤ rank b) {a : α}
    (ha : a ∈ items) : a ∈ greedy span [] queue ↔ a ∈ greedy span [] items := by
  have hstart : items.Pairwise fun a b => start a < start b := hsource.imp And.left
  have hasymm : ∀ a b : α, start a < start b → ¬start b < start a := fun _ _ => Nat.lt_asymm
  have hkept {k : α} (hk : k ∈ greedy span [] items) : k ∈ items := (greedy_sublist ..).subset hk
  have hkept' {k : α} (hk : k ∈ greedy span [] queue) : k ∈ items := hperm.mem_iff.1 ((greedy_sublist ..).subset hk)
  -- line by line: on earlier lines the same items are kept
  induction hn : (span a).first using Nat.strong_induction_on generalizing a with
  | _ n ih =>
  subst hn
  have hfront := mem_greedy_iff span Precedes.asymm [] hqueue (hperm.mem_iff.2 ha)
  have hfront' := mem_greedy_iff span hasymm [] hstart ha
  constructor
  · intro hk
    refine hfront'.2 ⟨by simp, fun k hkept₁ hka => Bool.eq_false_iff.2 fun ho => ?_⟩
    have hki := hkept hkept₁
    -- an item kept on an earlier line is kept in both orders; of one line only the first item is kept
    rcases Nat.lt_or_eq_of_le (source_lt hsource hki ha (.inr hka)).2 with hlt | heq
    · have hkq := (ih _ hlt hki rfl).2 hkept₁
      rw [(hfront.1 hk).2 k hkq (.inl hlt)] at ho
      cases ho
    · have hle := hleads k hkept₁ a ha heq.symm
      refine not_rel_of_mem_greedy Precedes.asymm Precedes.trans hqueue (fun _ _ _ _ h => h.first_le) hk
        (hperm.mem_iff.2 hki) heq (.inr ⟨heq, ?_⟩)
      omega
  · intro hk
    refine hfront.2 ⟨by simp, fun k hkq hka => ?_⟩
    have hki := hkept' hkq
    rcases hka with hlt | ⟨heq, hrank⟩
    · exact (hfront'.1 hk).2 k ((ih _ hlt hki rfl).1 hkq) (source_lt hsource hki ha (.inl hlt)).1
    · have hle := hleads a hk k hki heq
      refine absurd ?_ (not_rel_of_mem_greedy hasymm (fun _ _ _ => Nat.lt_trans) hstart
        (fun a ha b hb h => (source_lt hsource ha hb (.inr h)).2) hk hki heq)
      omega

theorem greedy_eq_of_leads
    (hleads : ∀ k ∈ greedy span [] items, ∀ b ∈ items, (span b).first = (span k).first → rank k ≤ rank b) :
    greedy span [] queue = greedy span [] items := by
  have hpairwise {items : List α} (h : items.Pairwise fun a b => (span a).first ≤ (span b).first) :
      (greedy span [] items).Pairwise fun a b => (span a).first < (span b).first := by
    rw [← apart_eq_greedy span none [] h (by simp) (by simp)]
    refine (pairwise_apart span h (by simp)).2.imp fun {a b} hlt => ?_
    exact Nat.lt_of_le_of_lt (span a).first_le_last hlt
  have : Std.Irrefl fun a b : α => (span a).first < (span b).first := ⟨fun _ => Nat.lt_irrefl _⟩
  have : Std.Antisymm fun a b : α => (span a).first < (span b).first :=
    ⟨fun _ _ h h' => absurd h' (Nat.lt_asymm h)⟩
  refine List.Pairwise.eq_of_mem_iff (hpairwise (hqueue.imp Precedes.first_le)) (hpairwise (hsource.imp And.right))
    fun a => ?_
  by_cases ha : a ∈ items
  · exact mem_greedy_iff_of_leads hperm hsource hqueue hleads ha
  · exact iff_of_false (fun h => ha (hperm.mem_iff.1 ((greedy_sublist ..).subset h)))
      fun h => ha ((greedy_sublist ..).subset h)

end

end Selection

def RegionKind.rank : RegionKind → Nat
  | .markup => 0
  | .script => 1
  | .scriptSetup => 2
  | .style => 3

namespace Component
variable {t : Text} {c : Component}

theorem pairwise_start (h : ofText t = .ok c) : c.blocks.Pairwise fun p q => p.start < q.start := by
  refine (pairwise_blocks h).imp_of_mem fun {p q} hp _ hle => ?_
  obtain ⟨x, y, hs⟩ := sits_of_mem h hp
  obtain ⟨m, hm⟩ := hs.delimited.opening
  have hpos : 0 < p.block.opening.length := by simp [hm]
  simp only [Placed.stop, Placed.contentEnd, Placed.contentStart] at hle
  omega

theorem pairwise_formattable (h : ofText t = .ok c) : c.formattable.Pairwise fun a b =>
    a.1.rank < b.1.rank ∨ a.1.rank = b.1.rank ∧ a.2.start < b.2.start := by
  have hone (kind : RegionKind) (slot : Slot) : ((c.inSlot slot).map (kind, ·)).Pairwise fun a b =>
      a.1.rank < b.1.rank ∨ a.1.rank = b.1.rank ∧ a.2.start < b.2.start := by
    rw [List.pairwise_map]
    exact ((pairwise_start h).filter _).imp fun hlt => .inr ⟨rfl, hlt⟩
  simp only [formattable, styles, List.pairwise_append, hone, true_and, List.mem_append, List.mem_map]
  refine ⟨⟨?_, ?_⟩, ?_⟩
  · rintro _ ⟨p, -, rfl⟩ _ ⟨q, -, rfl⟩
    simp [RegionKind.rank]
  · rintro _ (⟨p, -, rfl⟩ | ⟨p, -, rfl⟩) _ ⟨q, -, rfl⟩ <;> simp [RegionKind.rank]
  · rintro _ ((⟨p, -, rfl⟩ | ⟨p, -, rfl⟩) | ⟨p, -, rfl⟩) _ ⟨q, -, rfl⟩ <;> simp [RegionKind.rank]

end Component

namespace Extraction
variable {d : Document} {c : Component}

def Precedes (d : Document) : RegionKind × Placed → RegionKind × Placed → Prop :=
  Selection.Precedes (fun q => q.2.lines d) (fun q => q.1.rank) fun q => q.2.start

/-- The blocks that are kept when each is kept that shares no line with a block kept before it. -/
def firstCome (d : Document) (blocks : List (RegionKind × Placed)) : List (RegionKind × Placed) :=
  Selection.greedy (fun q => q.2.lines d) [] blocks

theorem pairwise_queue (h : Component.ofText d.text = .ok c) : (queue d c).Pairwise (Precedes d) :=
  Sorted.pairwise_ofList_stable (Component.pairwise_formattable h)

theorem perm_queue (d : Document) (c : Component) : (queue d c).Perm c.sourceOrder :=
  (Sorted.perm_ofList _ _).trans c.perm_sourceOrder

theorem kept_eq_firstCome (d : Document) (c : Component) : kept d c = firstCome d (queue d c) :=
  Selection.apart_eq_greedy _ none [] (Sorted.pairwise_ofList _ _) (by simp) (by simp)

theorem pairwise_source (h : Component.ofText d.text = .ok c) : c.sourceOrder.Pairwise fun a b =>
    a.2.start < b.2.start ∧ (a.2.lines d).first ≤ (b.2.lines d).first := by
  rw [Component.sourceOrder, List.pairwise_filterMap]
  refine ((Component.pairwise_start h).and (pairwise_first h)).imp ?_
  rintro p q hpq a ha b hb
  obtain ⟨_, -, rfl⟩ := Option.map_eq_some_iff.1 ha
  obtain ⟨_, -, rfl⟩ := Option.map_eq_some_iff.1 hb
  exact hpq

/-- The regions are the blocks to format that are kept when each is kept that shares no line with a block kept before
it, by their first lines, on one line by their kinds, and with one kind in the order of the text. They are those that
the order of the text gives exactly when what this order keeps on a line is of no later kind than what else starts
there. -/
theorem regions_greedy (h : Component.ofText d.text = .ok c) :
    (∃ queue : List (RegionKind × Placed), queue.Perm c.sourceOrder ∧ queue.Pairwise (Precedes d) ∧
      (ofDocument d).regions = (firstCome d queue).map fun q => Region.ofBlock d q.1 q.2) ∧
    ((ofDocument d).regions = (firstCome d c.sourceOrder).map (fun q => Region.ofBlock d q.1 q.2) ↔
      ∀ k ∈ firstCome d c.sourceOrder, ∀ b ∈ c.sourceOrder, (b.2.lines d).first = (k.2.lines d).first →
        k.1.rank ≤ b.1.rank) := by
  have hregions : (ofDocument d).regions = (firstCome d (queue d c)).map fun q => Region.ofBlock d q.1 q.2 := by
    rw [regions_ofDocument h, kept_eq_firstCome]
  have hperm := perm_queue d c
  have hqueue := pairwise_queue h
  refine ⟨⟨queue d c, hperm, hqueue, hregions⟩, fun heq k hk b hb hline => ?_, fun hleads => ?_⟩
  · have hmem : Region.ofBlock d k.1 k.2 ∈ (ofDocument d).regions := heq ▸ List.mem_map_of_mem hk
    rw [hregions] at hmem
    obtain ⟨k', hk', hsame⟩ := List.mem_map.1 hmem
    have hkind : k'.1 = k.1 := congrArg Region.kind hsame
    have hspan : k'.2.lines d = k.2.lines d := congrArg Region.span hsame
    have hline' : (b.2.lines d).first = (k'.2.lines d).first := by rw [hspan, hline]
    have hnot := Selection.not_rel_of_mem_greedy Selection.Precedes.asymm Selection.Precedes.trans hqueue
      (fun _ _ _ _ h => h.first_le) hk' (hperm.mem_iff.2 hb) hline'
    rw [← hkind]
    by_contra hlt
    exact hnot (.inr ⟨hline', .inl (Nat.lt_of_not_le hlt)⟩)
  · rw [hregions, firstCome, Selection.greedy_eq_of_leads hperm (pairwise_source h) hqueue hleads, ← firstCome]

/-- A style that shares a line with a template in front of it and with a script behind it. -/
def chained : Document :=
  .ofText "<template>\n<p>a</p>\n</template><style>\n.a \x7b\x7d\n</style><script>\nb\n</script>".toList

theorem regions_greedy_chained : ∃ c, Component.ofText chained.text = .ok c ∧
    (ofDocument chained).regions = (firstCome chained c.sourceOrder).map (fun q => Region.ofBlock chained q.1 q.2) ∧
    (ofDocument chained).regions.map Region.kind = [.markup, .script] := by
  let c : Component := ⟨[
    ⟨0, ⟨"template".toList, [], "<template>".toList, "\n<p>a</p>\n".toList, "</template>".toList⟩⟩,
    ⟨31, ⟨"style".toList, [], "<style>".toList, "\n.a \x7b\x7d\n".toList, "</style>".toList⟩⟩,
    ⟨53, ⟨"script".toList, [], "<script>".toList, "\nb\n".toList, "</script>".toList⟩⟩]⟩
  have h : Component.ofText chained.text = .ok c := Component.ofText_of_toOption (by decide +kernel)
  exact ⟨c, h, (regions_greedy h).2.2 (by decide +kernel), by decide +kernel⟩

def reversed : Document := .ofText "<style>a</style><template><p>b</p></template>".toList

/-- The template becomes a region, though the style stands in front of it and shares its line with no block before. -/
theorem regions_not_greedy_reversed : ∃ c, Component.ofText reversed.text = .ok c ∧
    (ofDocument reversed).regions ≠ (firstCome reversed c.sourceOrder).map (fun q => Region.ofBlock reversed q.1 q.2) ∧
    (ofDocument reversed).regions.map Region.kind = [.markup] ∧
    (firstCome reversed c.sourceOrder).map Prod.fst = [.style] := by
  let c : Component := ⟨[
    ⟨0, ⟨"style".toList, [], "<style>".toList, "a".toList, "</style>".toList⟩⟩,
    ⟨16, ⟨"template".toList, [], "<template>".toList, "<p>b</p>".toList, "</template>".toList⟩⟩]⟩
  have h : Component.ofText reversed.text = .ok c := Component.ofText_of_toOption (by decide +kernel)
  exact ⟨c, h, by decide +kernel, by decide +kernel, by decide +kernel⟩

end Extraction

end ComponentFormat
