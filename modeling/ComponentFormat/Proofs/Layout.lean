import Mathlib.Data.List.GetD
import ComponentFormat.Proofs.Rows

/-! # The blocks of an assembly by their numbers

Each block stands between the text in front of it and the text behind it, and the line that it starts on is the sum of
the terminators in the blocks and gaps in front. The regions of an assembly are a list of numbers, `Assembly.kept`.
-/
namespace ComponentFormat
open Text (Seam)

theorem Block.Spelled.delimited {b : Block} (h : b.Spelled) : b.Delimited := by
  cases h with
  | selfClosing htag => exact ⟨htag.bracketed, .inr ⟨rfl, rfl⟩⟩
  | raw htag _ _ _ hclose => exact ⟨htag.bracketed, .inl hclose.bracketed⟩
  | html htag _ _ _ hclose => exact ⟨htag.bracketed, .inl hclose.bracketed⟩

namespace Row

def nth (row : Row) (i : Nat) : Block × Text := row.getD i (⟨[], [], [], [], []⟩, [])

@[simp] theorem nth_zero (q : Block × Text) (more : Row) : nth (q :: more) 0 = q := rfl

@[simp] theorem nth_succ (q : Block × Text) (more : Row) (i : Nat) : nth (q :: more) (i + 1) = more.nth i := rfl

theorem nth_mem {row : Row} {i : Nat} (h : i < row.length) : row.nth i ∈ row := by
  rw [nth, List.getD_eq_getElem _ _ h]
  exact List.getElem_mem h

theorem text_append (row more : Row) : text (row ++ more) = row.text ++ more.text := List.flatMap_append

theorem text_take_succ (row : Row) (i : Nat) :
    text (row.take (i + 1)) = text (row.take i) ++ ((row.nth i).1.source ++ (row.nth i).2) := by
  induction row generalizing i with
  | nil => simp [text, nth, Block.source]
  | cons q more ih =>
    cases i with
    | zero => simp [text]
    | succ i =>
      have := ih i
      simp only [text, nth_succ, List.flatMap_cons, List.take_succ_cons] at this ⊢
      rw [this]
      simp only [List.append_assoc]

theorem text_eq (row : Row) (i : Nat) : row.text = text (row.take i) ++
    ((row.nth i).1.source ++ ((row.nth i).2 ++ text (row.drop (i + 1)))) := by
  have h := congrArg text (List.take_append_drop (i + 1) row)
  rw [text_append, text_take_succ] at h
  rw [← h]
  simp only [List.append_assoc]

theorem placed_eq (start : Nat) (row : Row) : placed start row =
    (List.range row.length).map fun i => ⟨start + (text (row.take i)).length, (row.nth i).1⟩ := by
  induction row generalizing start with
  | nil => rfl
  | cons q more ih =>
    obtain ⟨b, g⟩ := q
    rw [placed, ih, List.length_cons, List.range_succ_eq_map, List.map_cons, List.map_map]
    refine congrArg₂ _ (by simp [text]) (List.map_congr_left fun i _ => ?_)
    simp only [Function.comp_apply, List.take_succ_cons, text_cons, nth_succ, List.length_append, Block.length_source,
      Placed.mk.injEq, and_true]
    omega

end Row

namespace Assembly
variable (a : Assembly)

def block (i : Nat) : Block := (a.row.nth i).1

def gap (i : Nat) : Text := (a.row.nth i).2

def front (i : Nat) : Text := a.lead ++ Row.text (a.row.take i)

def behind (i : Nat) : Text := a.gap i ++ Row.text (a.row.drop (i + 1))

theorem text_eq (i : Nat) : a.text = a.front i ++ (a.block i).source ++ a.behind i := by
  rw [text, a.row.text_eq i, front, block, behind, gap]
  simp only [List.append_assoc]

theorem front_succ (i : Nat) : a.front (i + 1) = a.front i ++ (a.block i).source ++ a.gap i := by
  rw [front, a.row.text_take_succ i, front, block, gap]
  simp only [List.append_assoc]

theorem spelled_block {i : Nat} (h : i < a.row.length) : (a.block i).Spelled := a.spelled _ (Row.nth_mem h)

def placedAt (i : Nat) : Placed := ⟨(a.front i).length, a.block i⟩

theorem placed_eq : a.placed = (List.range a.row.length).map a.placedAt := by
  rw [placed, Row.placed_eq]
  refine List.map_congr_left fun i _ => ?_
  rw [placedAt, front, List.length_append]
  rfl

theorem sits {i : Nat} (h : i < a.row.length) : (a.placedAt i).Sits (a.front i) (a.behind i) a.text :=
  ⟨a.text_eq i, rfl, (a.spelled_block h).delimited⟩

def span (i : Nat) : LineSpan := (a.placedAt i).lines (Document.ofText a.text)

section
variable {a}

theorem first_span {i : Nat} (h : i < a.row.length) : (a.span i).first = (a.front i).breaks :=
  Region.ofBlock_first .style (d := Document.ofText a.text) (a.sits h)

theorem last_span {i : Nat} (h : i < a.row.length) :
    (a.span i).last = (a.span i).first + (a.block i).source.breaks := by
  rw [first_span h]
  exact Region.ofBlock_last .style (d := Document.ofText a.text) (a.sits h)

theorem breaks_behind {i : Nat} (h : i < a.row.length) (t : Text) :
    (a.front i ++ (a.block i).source ++ t).breaks = (a.span i).last + t.breaks := by
  have hb := (a.spelled_block h).bracketed
  have hfront : Seam (a.front i) (a.block i).source := Text.seam_of_head (by simpa using hb.head? []) (by decide)
  have hbehind : Seam (a.front i ++ (a.block i).source) t := Text.seam_of_getLast (hb.getLast? _) (by decide)
  rw [last_span h, first_span h, Text.breaks_append hbehind, Text.breaks_append hfront]

theorem first_span_succ {i : Nat} (h : i + 1 < a.row.length) :
    (a.span (i + 1)).first = (a.span i).last + (a.gap i).breaks := by
  rw [first_span h, front_succ, breaks_behind (Nat.lt_of_succ_lt h)]

theorem last_le_first {i j : Nat} (hij : i < j) (hj : j < a.row.length) : (a.span i).last ≤ (a.span j).first := by
  induction j with
  | zero => omega
  | succ j ih =>
    rw [first_span_succ hj]
    have hj := (a.span j).first_le_last
    rcases Nat.lt_or_eq_of_le (Nat.le_of_lt_succ hij) with hlt | rfl
    · have := ih hlt (by omega)
      omega
    · exact Nat.le_add_right ..

/-- Of two blocks the one in front shares a line with the other when it ends where the other starts. -/
theorem overlaps_iff {i j : Nat} (hij : i < j) (hj : j < a.row.length) :
    (a.span i).overlaps (a.span j) = true ↔ (a.span i).last = (a.span j).first := by
  have hle := last_le_first hij hj
  have hi := (a.span i).first_le_last
  have hj := (a.span j).first_le_last
  simp only [LineSpan.overlaps, Bool.and_eq_true, decide_eq_true_eq]
  omega

end

def candidates : List Nat :=
  let inSlot (s : Slot) := (List.range a.row.length).filter fun i => (a.block i).slot = s
  inSlot (.single .template) ++ inSlot (.single .script) ++ inSlot (.single .scriptSetup) ++ inSlot .style

def kind (i : Nat) : RegionKind := (a.block i).slot.kind?.getD .style

theorem formattable_eq : Component.formattable ⟨a.placed⟩ = a.candidates.map fun i => (a.kind i, a.placedAt i) := by
  have hslot (s : Slot) (k : RegionKind) (hk : s.kind? = some k) :
      (Component.inSlot ⟨a.placed⟩ s).map (k, ·) =
        ((List.range a.row.length).filter fun i => (a.block i).slot = s).map fun i => (a.kind i, a.placedAt i) := by
    rw [Component.inSlot, placed_eq, List.filter_map, List.map_map]
    refine List.map_congr_left fun i hi => ?_
    have hs : (a.block i).slot = s := of_decide_eq_true (List.mem_filter.1 hi).2
    simp [kind, hs, hk]
  rw [Component.formattable, Component.styles, hslot _ .markup rfl, hslot _ .script rfl, hslot _ .scriptSetup rfl,
    hslot _ .style rfl]
  simp only [candidates, List.map_append]

theorem lt_of_mem_candidates {i : Nat} (h : i ∈ a.candidates) : i < a.row.length := by
  simp only [candidates, List.mem_append, List.mem_filter, List.mem_range] at h
  rcases h with ((h | h) | h) | h <;> exact h.1

def queue : List Nat := Sorted.ofList (fun i => (a.span i).first) a.candidates

def kept : List Nat := Selection.apart a.span none a.queue

def document (path : String) : Document := ⟨path, a.text⟩

def region (path : String) (i : Nat) : Region := Region.ofBlock (a.document path) (a.kind i) (a.placedAt i)

theorem regions_eq (path : String) :
    (Extraction.ofDocument (a.document path)).regions = a.kept.map (a.region path) := by
  have hc : Component.ofText (a.document path).text = .ok ⟨a.placed⟩ := a.ofText_text
  rw [Extraction.regions_ofDocument hc, Extraction.kept, Extraction.queue, formattable_eq, Sorted.ofList_map,
    ← Option.map_none (fun i => (a.kind i, a.placedAt i)), Selection.apart_map, List.map_map]
  rfl

end Assembly

end ComponentFormat
