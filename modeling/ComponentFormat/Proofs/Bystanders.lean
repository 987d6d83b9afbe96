import Mathlib.Data.List.Forall2
import ComponentFormat.Engine.Reindent
import ComponentFormat.Proofs.Assembly
import ComponentFormat.Proofs.Passes

/-! # What a pass leaves as it is

An edit replaces whole lines, but only part of them gives way: the content of a script or style, or all lines of a
template. Everything else stands in the new text as it stood in the old one, in the same order, and so does each block
that is apart from the parts replaced (`Pass.bystanders_kept`).
-/
namespace ComponentFormat

/-- The text `old` from offset `start` on gives way to `new`. -/
structure Patch where
  start : Nat
  old : Text
  new : Text

def Patch.stop (p : Patch) : Nat := p.start + p.old.length

/-- From offset `pos` on stands `old`, and `new` is `old` with each patch put in. What stands between the patches stands
in both. -/
inductive Patched : Nat → List Patch → Text → Text → Prop where
  | rest (pos : Nat) (t : Text) : Patched pos [] t t
  | patch {pos : Nat} {more : List Patch} {kept gone text old new : Text}
      (behind : Patched (pos + kept.length + gone.length) more old new) :
      Patched pos (⟨pos + kept.length, gone, text⟩ :: more) (kept ++ gone ++ old) (kept ++ text ++ new)

namespace Patched
variable {pos : Nat} {patches : List Patch} {old new : Text}

theorem prepend {a : Text} (h : Patched (pos + a.length) patches old new) :
    Patched pos patches (a ++ old) (a ++ new) := by
  cases h with
  | rest => exact .rest pos (a ++ old)
  | @patch _ more kept gone text old new h =>
    have hlen : pos + a.length + kept.length = pos + (a ++ kept).length := by rw [List.length_append, Nat.add_assoc]
    rw [hlen] at h ⊢
    have hall : Patched pos (⟨pos + (a ++ kept).length, gone, text⟩ :: more) _ _ := .patch h
    simpa only [List.append_assoc] using hall

/-- A part that is apart from all patches is kept, and so is what the patches do in front of it and behind it. -/
theorem kept {x mid y : Text} (h : Patched pos patches old new) (hold : old = x ++ mid ++ y)
    (hapart : ∀ p ∈ patches, p.stop ≤ pos + x.length ∨ pos + x.length + mid.length ≤ p.start) :
    ∃ x' y' front back, patches = front ++ back ∧ new = x' ++ mid ++ y' ∧ Patched pos front x x' ∧
      Patched (pos + x.length + mid.length) back y y' := by
  induction h generalizing x with
  | rest pos t => exact ⟨x, y, [], [], rfl, hold, .rest .., .rest ..⟩
  | @patch pos more kept gone text old new h ih =>
    obtain ⟨hhead, hmore⟩ := List.forall_mem_cons.1 hapart
    simp only [Patch.stop] at hhead
    rcases hhead with hfront | hback
    · obtain ⟨x, rfl, rfl⟩ : ∃ x', x = kept ++ gone ++ x' ∧ old = x' ++ (mid ++ y) := by
        rw [List.append_assoc x] at hold
        exact Text.exists_of_append_eq_of_le hold (by rw [List.length_append]; omega)
      have hlen : pos + (kept ++ gone ++ x).length = pos + kept.length + gone.length + x.length := by
        simp only [List.length_append]
        omega
      rw [hlen] at hmore ⊢
      obtain ⟨x', y', front, back, rfl, rfl, hx, hy⟩ := ih (by rw [List.append_assoc]) hmore
      exact ⟨kept ++ text ++ x', y', _ :: front, back, rfl, by simp only [List.append_assoc], .patch hx, hy⟩
    · obtain ⟨k, rfl, rfl⟩ : ∃ k, kept = x ++ mid ++ k ∧ y = k ++ (gone ++ old) := by
        rw [List.append_assoc kept] at hold
        exact Text.exists_of_append_eq_of_le hold.symm (by rw [List.length_append]; omega)
      have hlen : pos + (x ++ mid ++ k).length = pos + x.length + mid.length + k.length := by
        simp only [List.length_append]
        omega
      rw [hlen] at h ⊢
      refine ⟨x, k ++ text ++ new, [], _, rfl, by simp only [List.append_assoc], .rest .., ?_⟩
      rw [← List.append_assoc]
      exact .patch h

end Patched

/-- Part of the lines of an edit gives way; what stands in front of it and behind it on these lines stays. -/
structure Edit.Narrows (d : Document) (e : Edit) (p : Patch) (before after : Text) : Prop where
  lines : d.wholeLines e.span.first e.span.last = .ok (before ++ p.old ++ after)
  start : ∃ n : Nat, d.lineStart e.span.first = .ok n ∧ p.start = n + before.length
  text : e.text = before ++ p.new ++ after

namespace Document
variable {d : Document}

/-- Where part of the lines of each edit gives way, applying the edits puts in these parts. -/
theorem Rewrites.patched {edits : List Edit} {patches : List Patch} {front old new : Text}
    (h : d.Rewrites front.length edits old new) (ht : d.text = front ++ old)
    (hp : List.Forall₂ (fun e p => ∃ before after, e.Narrows d p before after) edits patches) :
    Patched front.length patches old new := by
  induction hp generalizing front old new with
  | nil =>
    cases h
    exact .rest ..
  | @cons e p more patches hn _ ih =>
    obtain ⟨before, after, hn⟩ := hn
    obtain ⟨kept, lines, old, new, rfl, rfl, hfirst, hlines, hrest, ht⟩ := h.exists_step ht
    obtain ⟨n, hstart, hp⟩ := hn.start
    obtain rfl := Except.ok.inj (hstart.symm.trans hfirst)
    obtain rfl := Except.ok.inj (hlines.symm.trans hn.lines)
    have hp : p = ⟨front.length + (kept ++ before).length, p.old, p.new⟩ := by
      rw [List.length_append, ← Nat.add_assoc, ← List.length_append, ← hp]
    have hlen : (front ++ kept ++ (before ++ p.old ++ after)).length =
        front.length + (kept ++ before).length + p.old.length + after.length := by
      simp only [List.length_append]
      omega
    have hrest := ih hrest ht
    rw [hlen] at hrest
    rw [hp, hn.text]
    have hall : Patched front.length (⟨front.length + (kept ++ before).length, p.old, p.new⟩ :: patches) _ _ :=
      .patch hrest.prepend
    simpa only [List.append_assoc] using hall

end Document

/-- What gives way for a block: the content between its tags, or for a template all the lines that it stands on. -/
structure Patch.Within (d : Document) (kind : RegionKind) (b : Placed) (p : Patch) : Prop where
  content : kind ≠ .markup → p.start = b.contentStart ∧ p.stop = b.contentEnd
  lines : kind = .markup → d.lineStart (b.lines d).first = .ok p.start ∧ d.lineEnd (b.lines d).last = .ok p.stop

section
variable {d : Document} {e : Engines} {o : Options} {kind : RegionKind} {b : Placed} {x y : Text}

theorem Region.exists_patch (h : b.Sits x y d.text) {edit : Edit}
    (hedit : ((ofBlock d kind b).attempt e o).1.edit? = some edit) :
    ∃ p : Patch, (∃ before after, edit.Narrows d p before after) ∧ p.Within d kind b := by
  have hframes := ofBlock_frames kind h
  have hlines := wholeLines_span kind h
  have hlen := Text.length_endedText x
  have hstart := lineStart_first kind h
  rw [startOf_first kind h] at hstart
  obtain ⟨out, -, -, rfl⟩ := exists_answer_of_edit? hframes (Terminator.backslash_not_mem _) hedit
  by_cases hk : kind = .markup
  · let p : Patch := ⟨x.length - x.lastLine.length, (ofBlock d kind b).full,
      (ofBlock d kind b).rebuilt (x.lastLine ++ b.block.opening) (b.block.closing ++ y.firstLine) out⟩
    have hnarrows : Edit.Narrows d ⟨(ofBlock d kind b).span, p.new⟩ p [] [] :=
      ⟨by simpa [p] using hlines, ⟨_, hstart, rfl⟩, by simp⟩
    refine ⟨p, ⟨[], [], hnarrows⟩, fun hne => absurd hk hne, fun _ => ⟨hstart, ?_⟩⟩
    refine (Document.lineEnd_of_extent? (extent?_last kind h)).trans (congrArg _ ?_)
    simp only [Patch.stop, p, ofBlock_full kind h, List.length_append]
    omega
  · let p : Patch := ⟨b.contentStart, b.block.content, Text.withTerminator d.terminator.text ('\n' :: out)⟩
    have hoffset : b.contentStart = x.length - x.lastLine.length + (x.lastLine ++ b.block.opening).length := by
      rw [Placed.contentStart, h.start, List.length_append]
      omega
    have hnarrows : Edit.Narrows d ⟨(ofBlock d kind b).span, (ofBlock d kind b).rebuilt
        (x.lastLine ++ b.block.opening) (b.block.closing ++ y.firstLine) out⟩ p
        (x.lastLine ++ b.block.opening) (b.block.closing ++ y.firstLine) :=
      ⟨hframes.full ▸ hlines, ⟨_, hstart, hoffset⟩, rebuilt_content hk ..⟩
    exact ⟨p, ⟨_, _, hnarrows⟩, fun _ => ⟨rfl, rfl⟩, fun hm => absurd hm hk⟩

/-- What gives way for a template stands apart from the blocks on other lines, what gives way for another block from
all other blocks. -/
theorem Patch.Within.apart {p : Patch} {b' : Placed} {x' y' : Text} (hp : p.Within d kind b) (hb : b.Sits x y d.text)
    (hb' : b'.Sits x' y' d.text) (hlines : kind = .markup → (b.lines d).overlaps (b'.lines d) = false)
    (horder : kind ≠ .markup → b.stop ≤ b'.start ∨ b'.stop ≤ b.start) :
    p.stop ≤ b'.start ∨ b'.stop ≤ p.start := by
  by_cases hk : kind = .markup
  · obtain ⟨hstart, hstop⟩ := hp.lines hk
    have hfirst := Region.extent?_first kind hb
    have hlast := Region.extent?_last kind hb
    have hfirst' := Region.extent?_first kind hb'
    have hlast' := Region.extent?_last kind hb'
    have hstart := Except.ok.inj (hstart.symm.trans (Document.lineStart_of_extent? hfirst))
    have hstop := Except.ok.inj (hstop.symm.trans (Document.lineEnd_of_extent? hlast))
    have hend := Region.stop_eq hb'
    have happart := hlines hk
    simp only [LineSpan.overlaps, Bool.and_eq_false_iff, decide_eq_false_iff_not, Nat.not_le] at happart
    rcases happart with hlt | hlt
    · have := Document.stop_le_start hlast' hfirst hlt
      dsimp only at this hstart
      exact .inr (by omega)
    · have := Document.stop_le_start hlast hfirst' hlt
      dsimp only at this hstop
      have := hb'.start
      exact .inl (by omega)
  · obtain ⟨hstart, hstop⟩ := hp.content hk
    have := horder hk
    simp only [Placed.stop, Placed.contentEnd, Placed.contentStart] at *
    omega

end

theorem List.exists_forall₂ {α β : Type} {R : α → β → Prop} {l : List α} (h : ∀ a ∈ l, ∃ b, R a b) :
    ∃ m, List.Forall₂ R l m := by
  induction l with
  | nil => exact ⟨[], .nil⟩
  | cons a l ih =>
    obtain ⟨⟨b, hb⟩, h⟩ := List.forall_mem_cons.1 h
    obtain ⟨m, hm⟩ := ih h
    exact ⟨b :: m, .cons hb hm⟩

theorem Component.apart_of_ne {t : Text} {c : Component} (h : ofText t = .ok c) {p q : Placed} (hp : p ∈ c.blocks)
    (hq : q ∈ c.blocks) (hne : p ≠ q) : p.stop ≤ q.start ∨ q.stop ≤ p.start := by
  have : Std.Symm fun p q : Placed => p.stop ≤ q.start ∨ q.stop ≤ p.start := ⟨fun _ _ => Or.symm⟩
  have hpair : c.blocks.Pairwise fun p q => p.stop ≤ q.start ∨ q.stop ≤ p.start := (pairwise_blocks h).imp Or.inl
  exact hpair.forall hp hq hne

namespace Pass
variable (e : Region → Engines) (o : Options) (d : Document)

def Edits (kind : RegionKind) (b : Placed) : Prop :=
  b.block.slot.kind? = some kind ∧ Region.ofBlock d kind b ∈ (Extraction.ofDocument d).regions ∧
    ((Region.ofBlock d kind b).attempt (e (Region.ofBlock d kind b)) o).1.edit?.isSome = true

/-- The part of an edited block gives way, and the edit puts it there with the rest of the lines as they are. -/
structure Concerns (kind : RegionKind) (b : Placed) (edit : Edit) (p : Patch) : Prop where
  edited : Edits e o d kind b
  span : edit.span = b.lines d
  narrows : ∃ before after, edit.Narrows d p before after
  within : p.Within d kind b

theorem exists_concerns {c : Component} (hc : Component.ofText d.text = .ok c) {edit : Edit}
    (h : edit ∈ (ofDocumentBy e o d).edits) : ∃ p, ∃ b ∈ c.blocks, ∃ kind, Concerns e o d kind b edit p := by
  rw [edits_ofDocumentBy] at h
  obtain ⟨r, hr, hedit⟩ := List.mem_filterMap.1 h
  have hspan := span_of_edit? o d hr hedit
  obtain ⟨c', b, x, y, hc', hkept, hsits, he⟩ := Extraction.exists_of_mem_regions hr
  cases hc.symm.trans hc'
  obtain ⟨hb, hkind⟩ := Component.mem_formattable.1 (Extraction.mem_of_mem_kept hkept)
  rw [he] at hr hedit hspan
  obtain ⟨p, hnarrows, hwithin⟩ := Region.exists_patch hsits hedit
  have hedits : Edits e o d r.kind b := ⟨hkind, hr, Option.isSome_iff_exists.2 ⟨edit, hedit⟩⟩
  exact ⟨p, b, hb, r.kind, hedits, hspan, hnarrows, hwithin⟩

/-- Whatever engines answer the regions of a component: the edits are applied, and each of them puts something in the
place of the content of its block, or for a template of the lines that it stands on, and nowhere else. A block without
an edit of its own, on no line of a template that is edited, stands in the new text character for character, behind what
the edits have made of the text in front of it. -/
theorem bystanders_kept {c : Component} (hc : Component.ofText d.text = .ok c) :
    ∃ t patches, d.applyEdits (ofDocumentBy e o d).edits = .ok t ∧ Patched 0 patches d.text t ∧
      List.Forall₂ (fun edit p => ∃ b ∈ c.blocks, ∃ kind, Concerns e o d kind b edit p) (ofDocumentBy e o d).edits
        patches ∧
      ∀ b ∈ c.blocks, (∀ kind, ¬Edits e o d kind b) →
        (∀ b' ∈ c.blocks, Edits e o d .markup b' → (b'.lines d).overlaps (b.lines d) = false) →
        ∃ x y x' y' front back, b.Sits x y d.text ∧ t = x' ++ b.block.source ++ y' ∧ patches = front ++ back ∧
          Patched 0 front x x' ∧ Patched b.stop back y y' := by
  obtain ⟨t, ht, hrewrites⟩ := exists_rewrites e o d
  obtain ⟨patches, hconcerns⟩ := List.exists_forall₂ fun edit h => exists_concerns e o d hc h
  have hpatched : Patched 0 patches d.text t := by
    rw [← List.length_nil] at hrewrites
    refine hrewrites.patched rfl (hconcerns.imp ?_)
    rintro edit p ⟨b, -, kind, h⟩
    exact h.narrows
  refine ⟨t, patches, ht, hpatched, hconcerns, fun b hb hnone happart => ?_⟩
  obtain ⟨x, y, hsits⟩ := Component.sits_of_mem hc hb
  have hall : ∀ p ∈ patches, p.stop ≤ b.start ∨ b.stop ≤ p.start := by
    have hflip : List.Forall₂ (fun p _ => (p.stop ≤ b.start ∨ b.stop ≤ p.start) ∧ True) patches
        (ofDocumentBy e o d).edits := by
      refine List.Forall₂.flip (hconcerns.imp ?_)
      rintro edit p ⟨b', hb', kind, h⟩
      obtain ⟨x', y', hsits'⟩ := Component.sits_of_mem hc hb'
      have hne : b' ≠ b := fun he => hnone kind (he ▸ h.edited)
      exact ⟨h.within.apart hsits' hsits (fun hk => happart b' hb' (hk ▸ h.edited)) fun _ =>
        Component.apart_of_ne hc hb' hb hne, trivial⟩
    exact ((List.forall₂_and_left ..).1 hflip).1
  have hstop := Region.stop_eq hsits
  rw [List.length_append] at hstop
  rw [hsits.start, hstop] at hall
  obtain ⟨x', y', front, back, hp, ht', hfront, hback⟩ := hpatched.kept hsits.text (by simpa using hall)
  refine ⟨x, y, x', y', front, back, hsits, ht', hp, hfront, ?_⟩
  rw [hstop]
  simpa using hback

def note : Placed := ⟨0, ⟨"i18n".toList, [], "<i18n>".toList, "a\n  b".toList, "</i18n>".toList⟩⟩

def pageAt (start : Nat) : Placed :=
  ⟨start, ⟨"template".toList, [], "<template>".toList, "\n<p>c</p>\n".toList, "</template>".toList⟩⟩

def spaced : Document := .ofText "<i18n>a\n  b</i18n>\n<template>\n<p>c</p>\n</template>".toList

def crowded : Document := .ofText "<i18n>a\n  b</i18n><template>\n<p>c</p>\n</template>".toList

theorem bystanders_kept_spaced :
    Component.ofText spaced.text = .ok ⟨[note, pageAt 19]⟩ ∧
    ∃ t x y, spaced.applyEdits (ofDocument Reindent.engines .default spaced).edits = .ok t ∧
      t = x ++ note.block.source ++ y := by
  have hc : Component.ofText spaced.text = .ok ⟨[note, pageAt 19]⟩ := Component.ofText_of_toOption (by decide +kernel)
  obtain ⟨t, patches, ht, -, -, hkept⟩ := bystanders_kept (fun _ => Reindent.engines) .default spaced hc
  have hslot : note.block.slot.kind? = none := by decide +kernel
  have happart : ∀ b ∈ [note, pageAt 19], Edits (fun _ => Reindent.engines) .default spaced .markup b →
      (b.lines spaced).overlaps (note.lines spaced) = false := by
    rintro b hb ⟨h, -⟩
    rcases List.mem_pair.1 hb with rfl | rfl
    · cases hslot.symm.trans h
    · decide +kernel
  have hunedited : ∀ kind, ¬Edits (fun _ => Reindent.engines) .default spaced kind note := fun kind h =>
    nomatch hslot.symm.trans h.1
  obtain ⟨-, -, x, y, -, -, -, htext, -⟩ := hkept note (by simp) hunedited happart
  exact ⟨hc, t, x, y, ht, htext⟩

/-- A custom block that shares a line with a template loses the blanks in front of that line. -/
theorem bystander_edited_crowded :
    Component.ofText crowded.text = .ok ⟨[note, pageAt 18]⟩ ∧ note.block.slot = .custom ∧
    ∃ t, crowded.applyEdits (ofDocument Reindent.engines .default crowded).edits = .ok t ∧
      ¬note.block.source <:+: t := by
  have hnone : ((crowded.applyEdits (ofDocument Reindent.engines .default crowded).edits).toOption.map fun t =>
      decide (note.block.source <:+: t)) = some false := by decide +kernel
  obtain ⟨t, ht, hn⟩ := Option.map_eq_some_iff.1 hnone
  exact ⟨Component.ofText_of_toOption (by decide +kernel), by decide +kernel, t, ok_of_toOption ht,
    of_decide_eq_false hn⟩

end Pass

end ComponentFormat
