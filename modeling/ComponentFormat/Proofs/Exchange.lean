import Mathlib.Data.List.Induction
import ComponentFormat.Proofs.Rewriting
import ComponentFormat.Proofs.Revision

/-! # Exchanging blocks

One block of an assembly can be exchanged for another one in the same slot. When it is a block that becomes a region,
the same blocks become regions, and what stands on the lines of the others beside them stays. So edits that each put
a block in the place of another are applied from the last one up, and what they leave is an assembly again
(`Assembly.exists_exchanged`).
-/
namespace ComponentFormat

/-- Applying the last edit is applying the others to what the last one makes of the document. -/
theorem Document.replaceUpwards_concat {d d' : Document} {edits : List Edit} {last : Edit} {head lines tail : Text}
    (htext : d.text = head ++ lines ++ tail) (hstart : d.lineStart last.span.first = .ok head.length)
    (hstop : d.lineEnd last.span.last = .ok (head ++ lines).length) (htext' : d'.text = head ++ last.text ++ tail)
    (hsame : ∀ e ∈ edits, d'.lineStart e.span.first = d.lineStart e.span.first ∧
      d'.lineEnd e.span.last = d.lineEnd e.span.last) :
    d.replaceUpwards (edits ++ [last]) = d'.replaceUpwards edits := by
  induction edits with
  | nil =>
    simp only [List.nil_append, replaceUpwards, hstart, hstop, htext, htext', bind, Except.bind, pure, Except.pure]
    rw [List.append_assoc head lines, List.take_left, ← List.append_assoc, List.drop_left]
  | cons e more ih =>
    obtain ⟨⟨hfirst, hlast⟩, hmore⟩ := List.forall_mem_cons.1 hsame
    rw [List.cons_append, replaceUpwards, replaceUpwards, ih hmore, hfirst, hlast]

namespace Row

theorem nth_set {row : Row} {k : Nat} (hk : k < row.length) (q : Block × Text) (i : Nat) :
    nth (row.set k q) i = if i = k then q else row.nth i := by
  simp only [nth, List.getD_eq_getElem?_getD, List.getElem?_set]
  by_cases hi : k = i
  · subst hi
    simp [hk]
  · simp [hi, Ne.symm hi]

theorem map_slot_eq {row row' : Row} (hlength : row'.length = row.length)
    (hslot : ∀ i, (row'.nth i).1.slot = (row.nth i).1.slot) : row'.map (·.1.slot) = row.map (·.1.slot) := by
  refine List.ext_getElem (by simp [hlength]) fun i hi hi' => ?_
  simp only [List.length_map] at hi hi'
  have := hslot i
  simpa only [nth, List.getD_eq_getElem _ _ hi, List.getD_eq_getElem _ _ hi', List.getElem_map] using this

theorem length_filter_slot {row row' : Row} (h : row'.map (·.1.slot) = row.map (·.1.slot)) (slot : Slot) :
    (row'.filter (·.1.slot = slot)).length = (row.filter (·.1.slot = slot)).length := by
  have hcount (r : Row) : (r.filter (·.1.slot = slot)).length = (r.map (·.1.slot)).countP (· = slot) := by
    rw [List.countP_map, ← List.countP_eq_length_filter]
    rfl
  rw [hcount, hcount, h]

end Row

namespace Block

def withContent (b : Block) (content : Text) : Block := { b with content }

theorem slot_withContent (b : Block) (content : Text) : (b.withContent content).slot = b.slot := rfl

/-- A block that is no template can get another content if that has no closing tag which the old one had not. -/
theorem Spelled.withContent {b : Block} (h : b.Spelled) (hslot : b.slot ≠ .single .template) (hsome : b.content ≠ [])
    {content : Text} (hfree : (∀ c ∈ b.name, isPlainNameChar c = true) →
      ClosingTag.Free b.name b.content → ClosingTag.Free b.name content) :
    (b.withContent content).Spelled := by
  cases h with
  | selfClosing => exact absurd rfl hsome
  | raw htag hopen hraw hcontent hclose hname =>
    exact Spelled.raw htag hopen hraw (hfree htag.plain_lower hcontent) hclose hname
  | html htag hopen hhtml hcontent hclose hname =>
    exact absurd (by simp [slot, hhtml.1]) hslot

end Block

namespace Assembly
variable {a : Assembly} {k : Nat} {b : Block}

def withBlock (a : Assembly) (k : Nat) (b : Block) (hk : k < a.row.length) (hspelled : b.Spelled)
    (hslot : b.slot = (a.block k).slot) : Assembly where
  lead := a.lead
  row := a.row.set k (b, a.gap k)
  lead_plain := a.lead_plain
  gaps_plain := by
    intro q hq
    rcases List.mem_or_eq_of_mem_set hq with hq | rfl
    · exact a.gaps_plain q hq
    · exact a.gaps_plain (a.row.nth k) (Row.nth_mem hk)
  spelled := by
    intro q hq
    rcases List.mem_or_eq_of_mem_set hq with hq | rfl
    · exact a.spelled q hq
    · exact hspelled
  single := by
    intro kind
    have hslots : (a.row.set k (b, a.gap k)).map (·.1.slot) = a.row.map (·.1.slot) := by
      refine Row.map_slot_eq (by simp) fun i => ?_
      rw [Row.nth_set hk]
      split
      · next hi =>
        subst hi
        exact hslot
      · rfl
    rw [Row.length_filter_slot hslots]
    exact a.single kind

section
variable {hk : k < a.row.length} {hspelled : b.Spelled} {hslot : b.slot = (a.block k).slot}

theorem block_withBlock (i : Nat) : (a.withBlock k b hk hspelled hslot).block i = if i = k then b else a.block i := by
  show (Row.nth (a.row.set k _) i).1 = _
  rw [Row.nth_set hk]
  split <;> rfl

theorem gap_withBlock (i : Nat) : (a.withBlock k b hk hspelled hslot).gap i = a.gap i := by
  show (Row.nth (a.row.set k _) i).2 = _
  rw [Row.nth_set hk]
  split
  · next hi => rw [hi]
  · rfl

theorem front_withBlock {i : Nat} (hi : i ≤ k) : (a.withBlock k b hk hspelled hslot).front i = a.front i := by
  show a.lead ++ Row.text ((a.row.set k _).take i) = _
  rw [List.take_set_of_le hi]
  rfl

theorem behind_withBlock {i : Nat} (hi : k ≤ i) : (a.withBlock k b hk hspelled hslot).behind i = a.behind i := by
  rw [behind, gap_withBlock, behind]
  show a.gap i ++ Row.text ((a.row.set k _).drop (i + 1)) = _
  rw [List.drop_set_of_lt (Nat.lt_succ_of_le hi)]

theorem text_withBlock : (a.withBlock k b hk hspelled hslot).text = a.front k ++ b.source ++ a.behind k := by
  rw [text_eq _ k, front_withBlock (Nat.le_refl k), behind_withBlock (Nat.le_refl k), block_withBlock, if_pos rfl]

theorem alters_withBlock (hbreak : (a.block k).source.HasBreak → b.source.HasBreak) :
    a.Alters (a.withBlock k b hk hspelled hslot) k where
  length := List.length_set ..
  slot i := by
    rw [block_withBlock]
    split
    · next hi => rw [hi, hslot]
    · rfl
  broken i := by
    rw [block_withBlock]
    split
    · next hi => rw [hi]; exact hbreak
    · exact id
  unbroken i hi := by
    rw [block_withBlock, if_neg hi]
    exact id
  gap i _ := by rw [gap_withBlock]

/-- A block that becomes a region has the text beside it on its lines that it had. -/
theorem beside_withBlock (hkept : k ∈ a.kept) {i : Nat} (hi : i ∈ a.kept) :
    ((a.withBlock k b hk hspelled hslot).front i).lastLine = (a.front i).lastLine ∧
      ((a.withBlock k b hk hspelled hslot).behind i).firstLine = (a.behind i).firstLine := by
  have hi' := lt_of_mem_kept hi
  have htext : (a.withBlock k b hk hspelled hslot).text = _ := text_withBlock
  rw [text_eq _ i] at htext
  rcases Nat.lt_trichotomy i k with hlt | rfl | hlt
  · obtain ⟨w, c, m, hw, hc, hfront, hbehind⟩ := exists_break hi' hk hlt (last_lt_first hi hkept hlt)
    rw [block_withBlock, if_neg (Nat.ne_of_lt hlt), front_withBlock (Nat.le_of_lt hlt), hfront] at htext
    simp only [List.append_assoc, List.append_cancel_left_eq, List.cons_append] at htext
    rw [front_withBlock (Nat.le_of_lt hlt), htext, hbehind, Text.firstLine_append_break hw hc,
      Text.firstLine_append_break hw hc]
    exact ⟨rfl, rfl⟩
  · rw [front_withBlock (Nat.le_refl i), behind_withBlock (Nat.le_refl i)]
    exact ⟨rfl, rfl⟩
  · obtain ⟨w, c, m, hw, hc, hfront, hbehind⟩ := exists_break hk hi' hlt (last_lt_first hkept hi hlt)
    rw [block_withBlock, if_neg (Nat.ne_of_gt hlt), behind_withBlock (Nat.le_of_lt hlt), hbehind] at htext
    have hfront' : (a.withBlock k b hk hspelled hslot).front i ++ ((a.block i).source ++ a.behind i) =
        a.front k ++ b.source ++ w ++ c :: m ++ ((a.block i).source ++ a.behind i) := by simpa using htext
    rw [List.append_cancel_right hfront', behind_withBlock (Nat.le_of_lt hlt), hfront, ← List.append_assoc,
      Text.lastLine_append_cons hc, Text.lastLine_append_cons hc]
    exact ⟨rfl, rfl⟩

end

/-- The edit, if there is one, puts `b` in the place of block `i`. -/
structure Exchanges (a : Assembly) (i : Nat) (b : Block) (edit : Option Edit) : Prop where
  spelled : b.Spelled
  slot : b.slot = (a.block i).slot
  broken : (a.block i).source.HasBreak → b.source.HasBreak
  put : ∀ e ∈ edit, e.span = a.span i ∧ e.text = (a.front i).lastLine ++ b.source ++ (a.behind i).firstLine
  same : edit = none → b = a.block i

namespace Exchanges
variable {edit : Option Edit} (h : a.Exchanges k b edit) (hk : k ∈ a.kept)

def assembly (h : a.Exchanges k b edit) (hk : k ∈ a.kept) : Assembly :=
  a.withBlock k b (lt_of_mem_kept hk) h.spelled h.slot

theorem length_assembly : (h.assembly hk).row.length = a.row.length := List.length_set ..

theorem kept_assembly : (h.assembly hk).kept = a.kept := (alters_withBlock h.broken).kept_eq hk

theorem block_of_ne {i : Nat} (hi : i ≠ k) : (h.assembly hk).block i = a.block i :=
  (block_withBlock i).trans (if_neg hi)

theorem front {i : Nat} {c : Block} {edit' : Option Edit} (h' : a.Exchanges i c edit') (hi : i ∈ a.kept) (hik : i < k) :
    (h.assembly hk).Exchanges i c edit' := by
  have hi' := lt_of_mem_kept hi
  have hblock := h.block_of_ne hk (Nat.ne_of_lt hik)
  have hfront : (h.assembly hk).front i = a.front i := front_withBlock (Nat.le_of_lt hik)
  have hbehind : ((h.assembly hk).behind i).firstLine = _ := (beside_withBlock hk hi).2
  have hspan := span_eq hi' (h.length_assembly hk ▸ hi') hfront hblock
  refine ⟨h'.spelled, hblock ▸ h'.slot, hblock ▸ h'.broken, ?_, hblock ▸ h'.same⟩
  rw [hspan, hfront, hbehind]
  exact h'.put

/-- Applying the edits up to this one is applying those in front of it to what this one leaves. -/
theorem replaceUpwards (path : String) {edits : List Edit}
    (hedits : ∀ e ∈ edits, ∃ i ∈ a.kept, i < k ∧ e.span = a.span i) :
    (a.document path).replaceUpwards (edits ++ edit.toList) = ((h.assembly hk).document path).replaceUpwards edits := by
  have htext : (h.assembly hk).text = a.front k ++ b.source ++ a.behind k := text_withBlock
  cases edit with
  | none =>
    have hsame : (h.assembly hk).document path = a.document path := by
      rw [document, htext, h.same rfl, ← text_eq, document]
    rw [hsame, Option.toList_none, List.append_nil]
  | some last =>
    obtain ⟨head, tail, haround⟩ := a.exists_around k
    obtain ⟨hspan, hlines⟩ := h.put last rfl
    obtain ⟨hstart, hstop⟩ := offsets_lines path (lt_of_mem_kept hk) haround
    rw [haround.append, ← hlines] at htext
    refine Document.replaceUpwards_concat haround.text (hspan ▸ hstart) (hspan ▸ hstop) htext fun e he => ?_
    obtain ⟨i, hi, hik, hs⟩ := hedits e he
    have hi' := lt_of_mem_kept hi
    rw [hs]
    exact offsets_eq path hi' (h.length_assembly hk ▸ hi') (front_withBlock (Nat.le_of_lt hik))
      (h.block_of_ne hk (Nat.ne_of_lt hik)) (beside_withBlock hk hi).2

end Exchanges

/-- The assembly `a'` is `a` with the blocks `b` at the numbers `ks`, and the regions have beside them what they had. -/
structure Exchanged (a a' : Assembly) (b : Nat → Block) (ks : List Nat) : Prop where
  length : a'.row.length = a.row.length
  kept : a'.kept = a.kept
  block : ∀ i ∈ ks, a'.block i = b i
  block_of_not_mem : ∀ i ∉ ks, a'.block i = a.block i
  beside : ∀ i ∈ a.kept, (a'.front i).lastLine = (a.front i).lastLine ∧
    (a'.behind i).firstLine = (a.behind i).firstLine

namespace Exchanged
variable {a' : Assembly} {c : Nat → Block} {ks : List Nat}

theorem refl (a : Assembly) (c : Nat → Block) : a.Exchanged a c [] :=
  ⟨rfl, rfl, by simp, fun _ _ => rfl, fun _ _ => ⟨rfl, rfl⟩⟩

theorem concat {edit : Option Edit} (h : a.Exchanges k (c k) edit) (hk : k ∈ a.kept) (hks : k ∉ ks)
    (ha : (h.assembly hk).Exchanged a' c ks) : a.Exchanged a' c (ks ++ [k]) where
  length := ha.length.trans (h.length_assembly hk)
  kept := ha.kept.trans (h.kept_assembly hk)
  block i hi := by
    rcases List.mem_append.1 hi with hi | hi
    · exact ha.block i hi
    · obtain rfl := List.mem_singleton.1 hi
      exact (ha.block_of_not_mem i hks).trans ((block_withBlock i).trans (if_pos rfl))
  block_of_not_mem i hi := by
    rw [List.mem_append, List.mem_singleton, not_or] at hi
    rw [ha.block_of_not_mem i hi.1, h.block_of_ne hk hi.2]
  beside i hi := by
    obtain ⟨hfront, hbehind⟩ := ha.beside i (h.kept_assembly hk ▸ hi)
    have hwith : ((h.assembly hk).front i).lastLine = _ ∧ ((h.assembly hk).behind i).firstLine = _ :=
      beside_withBlock hk hi
    exact ⟨hfront.trans hwith.1, hbehind.trans hwith.2⟩

end Exchanged

/-- Edits that put blocks in the places of others are applied, and what they leave is an assembly. -/
theorem exists_exchanged (path : String) {c : Nat → Block} {edit : Nat → Option Edit} {front back : List Nat}
    (hkept : a.kept = front ++ back) (h : ∀ i ∈ front, a.Exchanges i (c i) (edit i)) :
    ∃ a', (a.document path).replaceUpwards (front.filterMap edit) = .ok a'.text ∧ a.Exchanged a' c front := by
  -- from the last edit up, each leaves the edits in front of it as they are
  induction front using List.reverseRecOn generalizing a back with
  | nil => exact ⟨a, rfl, .refl a c⟩
  | append_singleton front k ih =>
    rw [List.append_assoc, List.singleton_append] at hkept
    obtain ⟨hfront, hlast⟩ := List.forall_mem_append.1 h
    have hone := hlast k (List.mem_singleton_self k)
    have hsorted := a.sorted_kept
    rw [hkept, List.pairwise_append] at hsorted
    have hk : k ∈ a.kept := by simp [hkept]
    have hin : ∀ i ∈ front, i ∈ a.kept ∧ i < k := fun i hi =>
      ⟨by simp [hkept, hi], hsorted.2.2 i hi k (List.mem_cons_self ..)⟩
    have hnone : k ∉ front := fun hm => Nat.lt_irrefl k (hin k hm).2
    obtain ⟨a', ht, ha⟩ := ih ((hone.kept_assembly hk).trans hkept) fun i hi =>
      hone.front hk (hfront i hi) (hin i hi).1 (hin i hi).2
    refine ⟨a', ?_, ha.concat hone hk hnone⟩
    have hone' : [k].filterMap edit = (edit k).toList := by cases hedit : edit k <;> simp [hedit]
    rw [List.filterMap_append, hone', ← ht]
    refine hone.replaceUpwards hk path fun e he => ?_
    obtain ⟨i, hi, he⟩ := List.mem_filterMap.1 he
    exact ⟨i, (hin i hi).1, (hin i hi).2, ((hfront i hi).put e he).1⟩

end Assembly

end ComponentFormat
