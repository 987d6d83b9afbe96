import Mathlib.Data.List.Induction
import ComponentFormat.Proofs.Replacing

/-! # A second pass finds nothing to do

The edits of a pass are applied from the last one up. Each leaves an assembly with the same regions, in which the
regions in front have the edits that they had and the others have none, so after the last one no region has an edit.
Main statement: `Assembly.edits_settled`.
-/
namespace ComponentFormat

namespace Assembly
variable {a a' : Assembly} {path : String} {o : Options} {k : Nat}

/-- The text has terminators of one kind, the one that is written into it. -/
structure Even (a : Assembly) (path : String) : Prop where
  uses : a.text.Uses (a.document path).terminator
  feeds : (a.document path).terminator = .lf ∨ a.text.HasBreak

theorem Revises.hasBreak (h : a.Revises a' k) {head tail new : Text} (haround : a.Around k head tail)
    (ht : a'.text = head ++ new ++ tail) (hbreak : a.text.HasBreak) : a'.text.HasBreak := by
  rw [haround.text, lines] at hbreak
  simp only [Text.hasBreak_append, Text.not_hasBreak_lastLine, Text.not_hasBreak_firstLine, false_or,
    or_false] at hbreak
  rcases hbreak with (hb | hb) | hb
  · rw [ht]
    simp [hb]
  · rw [a'.text_eq k]
    simp [h.broken k hb]
  · rw [ht]
    simp [hb]

theorem Settles.even {new : Text} (h : Settles a a' path o k new) (heven : a.Even path) :
    (a'.document path).terminator = (a.document path).terminator ∧ a'.Even path := by
  obtain ⟨head, tail, haround, ht⟩ := h.around
  have hfeeds := heven.feeds.imp_right (h.revises.hasBreak haround ht)
  have hends : (a'.document path).terminator = (a.document path).terminator :=
    Document.terminator_eq (d := a'.document path) h.uses hfeeds
  exact ⟨hends, hends ▸ h.uses, hends ▸ hfeeds⟩

theorem exists_settles (hk : k < a.row.length) (heven : a.Even path) {edit : Edit} (h : a.edit? path o k = some edit) :
    ∃ a', Settles a a' path o k edit.text := by
  by_cases hkind : a.kind k = .markup
  · exact settles_lines hk hkind heven.uses h
  · exact settles_content hk hkind heven.uses h

section
variable {new : Text} (h : Settles a a' path o k new) (hk : k ∈ a.kept) (heven : a.Even path)
include h hk heven

theorem Settles.edit?_above {i : Nat} (hi : i ∈ a.kept) (hik : i < k) : a'.edit? path o i = a.edit? path o i := by
  obtain ⟨head, tail, haround, ht⟩ := h.around
  rw [edit?, edit?, editBy?, editBy?, (h.revises.region_above hk haround ht (h.even heven).1 hi hik).1]

theorem Settles.edit?_below {i : Nat} (hi : i ∈ a.kept) (hki : k < i) (hnone : a.edit? path o i = none) :
    a'.edit? path o i = none := by
  obtain ⟨head, tail, haround, ht⟩ := h.around
  have hs : (a.placedAt i).Sits (a.front i) (a.behind i) (a.document path).text := a.sits (lt_of_mem_kept hi)
  have hframes : (a.region path i).Frames _ _ := Region.ofBlock_frames (a.kind i) hs
  rw [edit?, editBy?, h.revises.region_below hk haround ht (h.even heven).1 h.solids hi hki]
  exact Region.edit?_eq_none_of_span hframes (Terminator.backslash_not_mem _) _ _ _ hnone

theorem Settles.replaceUpwards {edits : List Edit} {last : Edit} (hlast : last.span = a.span k ∧ last.text = new)
    (hedits : ∀ e ∈ edits, ∃ i ∈ a.kept, i < k ∧ e.span = a.span i) :
    (a.document path).replaceUpwards (edits ++ [last]) = (a'.document path).replaceUpwards edits := by
  obtain ⟨head, tail, haround, ht⟩ := h.around
  obtain ⟨hspan, rfl⟩ := hlast
  obtain ⟨hstart, hstop⟩ := offsets_lines path (lt_of_mem_kept hk) haround
  refine Document.replaceUpwards_concat haround.text (hspan ▸ hstart) (hspan ▸ hstop) ht fun e he => ?_
  obtain ⟨i, hi, hik, hs⟩ := hedits e he
  rw [hs]
  exact (h.revises.region_above hk haround ht (h.even heven).1 hi hik).2

end

theorem edits_eq (a : Assembly) (path : String) (o : Options) :
    (Pass.ofDocument Reindent.engines o (a.document path)).edits = a.kept.filterMap (a.edit? path o) :=
  editsBy_eq a path (fun _ => Reindent.engines) o

/-- Edits up to some region are applied and leave nothing to do, if there is nothing to do behind. -/
theorem exists_settled {front back : List Nat} (hkept : a.kept = front ++ back) (heven : a.Even path)
    (hback : ∀ i ∈ back, a.edit? path o i = none) :
    ∃ t, (a.document path).replaceUpwards (front.filterMap (a.edit? path o)) = .ok t ∧
      (Pass.ofDocument Reindent.engines o ⟨path, t⟩).edits = [] := by
  induction front using List.reverseRecOn generalizing a back with
  | nil =>
    refine ⟨a.text, rfl, ?_⟩
    have hnone : a.kept.filterMap (a.edit? path o) = [] := by
      rw [hkept, List.nil_append, List.filterMap_eq_nil_iff]
      exact hback
    exact (edits_eq a path o).trans hnone
  | append_singleton front k ih =>
    rw [List.append_assoc, List.singleton_append] at hkept
    have hk : k ∈ a.kept := by simp [hkept]
    rw [List.filterMap_append]
    cases hedit : a.edit? path o k with
    | none =>
      have := ih hkept heven (List.forall_mem_cons.2 ⟨hedit, hback⟩)
      simpa [hedit] using this
    | some edit =>
      have hlt := lt_of_mem_kept hk
      obtain ⟨a', hs⟩ := exists_settles hlt heven hedit
      have hsorted := a.sorted_kept
      rw [hkept, List.pairwise_append, List.pairwise_cons] at hsorted
      obtain ⟨-, ⟨hbehind, -⟩, hbefore⟩ := hsorted
      have hin : ∀ i ∈ front, i ∈ a.kept ∧ i < k := fun i hi => ⟨by simp [hkept, hi], hbefore i hi k (by simp)⟩
      obtain ⟨hends, heven'⟩ := hs.even heven
      have hkept' : a'.kept = front ++ k :: back := (hs.revises.kept_eq hk).trans hkept
      have hback' : ∀ i ∈ k :: back, a'.edit? path o i = none := by
        refine List.forall_mem_cons.2 ⟨hs.settled hends, fun i hi => ?_⟩
        exact hs.edit?_below hk heven (by simp [hkept, hi]) (hbehind i hi) (hback i hi)
      have hsame : front.filterMap (a'.edit? path o) = front.filterMap (a.edit? path o) :=
        List.filterMap_congr fun i hi => hs.edit?_above hk heven (hin i hi).1 (hin i hi).2
      have hrest := ih hkept' heven' hback'
      rw [hsame] at hrest
      have hone : [k].filterMap (a.edit? path o) = [edit] := by simp [hedit]
      rw [hone, hs.replaceUpwards hk heven ⟨span_of_edit? hlt hedit, rfl⟩ fun e he => ?_]
      · exact hrest
      · obtain ⟨i, hi, he⟩ := List.mem_filterMap.1 he
        exact ⟨i, (hin i hi).1, (hin i hi).2, span_of_edit? (lt_of_mem_kept (hin i hi).1) he⟩

/-- In an assembly with terminators of one kind, applying the edits of a pass of the re-indenting engines leaves a
document in which the same pass has no edits. -/
theorem edits_settled (a : Assembly) (path : String) (o : Options)
    (h : ∀ e ∈ (Lines.ofText a.text).terminators, ∀ f ∈ (Lines.ofText a.text).terminators, e = f) :
    ∃ t, (Document.mk path a.text).applyEdits (Pass.ofDocument Reindent.engines o ⟨path, a.text⟩).edits = .ok t ∧
      (Pass.ofDocument Reindent.engines o ⟨path, t⟩).edits = [] := by
  obtain ⟨huses, hfeeds⟩ := Document.uses_terminator (d := a.document path) h
  obtain ⟨t, ht, hnone⟩ := exists_settled (a := a) (o := o) (List.append_nil a.kept).symm ⟨huses, hfeeds⟩ (by simp)
  have hedits := edits_eq a path o
  have hp : (a.kept.filterMap (a.edit? path o)).Pairwise fun e f => e.span.last < f.span.first :=
    hedits ▸ Pass.pairwise_edits (fun _ => Reindent.engines) o (a.document path)
  have happly := Document.applyEdits_eq (d := a.document path) hp
  rw [ht, ← hedits] at happly
  exact ⟨t, happly, hnone⟩

def nestedScript : Assembly where
  lead := []
  row := [(⟨"script".toList, Attributes.ofList [], "<script>".toList, "\nif (a) \x7b\nb()\n\x7d\n".toList,
    "</script>".toList⟩, ['\n'])]
  lead_plain := by simp
  gaps_plain := by simp
  spelled := by
    have hname : Text.IsPlainName "script".toList :=
      ⟨⟨'s', "cript".toList, rfl, by decide⟩, List.all_eq_true.1 (by decide)⟩
    have hopening : OpeningTag.Spelled ⟨"script".toList, [], false⟩ [] "<script>".toList :=
      .mk hname Text.blank_nil .nil
    intro q hq
    obtain rfl := List.mem_singleton.1 hq
    exact .raw hopening rfl (by decide) (by decide) (.mk hname Text.blank_nil) rfl
  single kind := by cases kind <;> decide

theorem edits_settled_nestedScript :
    (∀ e ∈ (Lines.ofText nestedScript.text).terminators,
      ∀ f ∈ (Lines.ofText nestedScript.text).terminators, e = f) ∧
    ∃ t, (Document.mk "a" nestedScript.text).applyEdits
        (Pass.ofDocument Reindent.engines .default ⟨"a", nestedScript.text⟩).edits = .ok t ∧
      (Pass.ofDocument Reindent.engines .default ⟨"a", t⟩).edits = [] := by
  have h : ∀ e ∈ (Lines.ofText nestedScript.text).terminators,
      ∀ f ∈ (Lines.ofText nestedScript.text).terminators, e = f := by decide
  exact ⟨h, edits_settled nestedScript "a" .default h⟩

end Assembly

end ComponentFormat
