import Mathlib.Data.List.Forall2
import ComponentFormat.Proofs.Records

/-! # Text in front of a component

A text without an opening bracket in front of a component changes nothing but where things stand. All offsets move by
its length and all lines by its terminators, of which one does not count when it joins with what follows into a CR LF.
A fault is the same, on a line as much further down (`Component.lead_in`).
-/
namespace ComponentFormat

namespace Text

/-- How many lines further down the text `t` starts behind `a`: a carriage return at the seam ends no line of its own in
front of a line feed. -/
def linesAhead (a t : Text) : Nat :=
  if a.getLast? = some '\r' ∧ t.head? = some '\n' then a.breaks - 1 else a.breaks

end Text

structure Position.Moves (k lines : Nat) (p q : Position) : Prop where
  offset : q.offset = k + p.offset
  line : q.line = p.line + lines

namespace Locator
open Text (Seam)

theorem breaksFrom_add (k offset : Nat) (t : Text) :
    breaksFrom (k + offset) t = (breaksFrom offset t).map (k + ·) := by
  fun_induction breaksFrom offset t with
  | case1 => rfl
  | case2 offset t ih => rw [breaksFrom, Nat.add_assoc, ih, List.map_cons]
  | case3 offset c t hne hc ih => rw [breaksFrom.eq_3 _ _ _ hne, if_pos hc, Nat.add_assoc, ih, List.map_cons]
  | case4 offset c t hne hc ih => rw [breaksFrom.eq_3 _ _ _ hne, if_neg hc, Nat.add_assoc, ih]

theorem countP_breaksFrom_add (k start offset : Nat) (t : Text) :
    (breaksFrom (k + start) t).countP (· ≤ k + offset) = (breaksFrom start t).countP (· ≤ offset) := by
  rw [breaksFrom_add, List.countP_map]
  refine List.countP_congr fun n _ => ?_
  simp

theorem breaksFrom_append {a b : Text} (h : Seam a b) (offset : Nat) :
    breaksFrom offset (a ++ b) = breaksFrom offset a ++ breaksFrom (offset + a.length) b := by
  fun_induction breaksFrom offset a with
  | case1 => rfl
  | case2 offset t ih =>
    rw [List.cons_append, List.cons_append, breaksFrom, ih h.cons.cons]
    simp [Nat.add_assoc, Nat.add_comm 2]
  | case3 offset c t hne hc ih =>
    have hne' : ∀ u, c = '\r' → t ++ b = '\n' :: u → False := by
      rintro u rfl hu
      cases t with
      | nil => exact h ⟨rfl, by rw [List.nil_append] at hu; rw [hu]; rfl⟩
      | cons d t => exact hne t rfl (by rw [(List.cons.inj hu).1])
    rw [List.cons_append, breaksFrom.eq_3 _ _ _ hne', if_pos hc, ih h.cons]
    simp [Nat.add_assoc, Nat.add_comm 1]
  | case4 offset c t hne hc ih =>
    have hne' : ∀ u, c = '\r' → t ++ b = '\n' :: u → False := fun _ hcr _ => hc (.inl hcr)
    rw [List.cons_append, breaksFrom.eq_3 _ _ _ hne', if_neg hc, ih h.cons]
    simp [Nat.add_assoc, Nat.add_comm 1]

theorem length_breaksFrom (offset : Nat) (t : Text) : (breaksFrom offset t).length = t.breaks := by
  have hlen := congrArg List.length (starts_extentsFrom offset t)
  rw [List.length_map, Lines.length_extentsFrom, List.length_cons] at hlen
  exact (Nat.succ_inj.1 hlen).symm

theorem breaksFrom_le {offset : Nat} {t : Text} : ∀ n ∈ breaksFrom offset t, n ≤ offset + t.length := by
  have hlen := Text.length_endedText t
  intro n hn
  have hmem : n ∈ (Lines.extentsFrom offset (Lines.ofText t).ended (Lines.ofText t).last).map Extent.start := by
    rw [starts_extentsFrom]
    exact List.mem_cons_of_mem _ hn
  obtain ⟨e, he, rfl⟩ := List.mem_map.1 hmem
  have := Lines.extentsFrom_bounds _ _ _ e he
  unfold Text.lastLine at hlen
  omega

theorem line_eq (t : Text) (offset : Nat) : (ofText t).line offset = (breaksFrom 0 t).countP (· ≤ offset) + 1 := by
  simp [line, ofText]

theorem line_append {a b : Text} (h : Seam a b) (offset : Nat) :
    (ofText (a ++ b)).line (a.length + offset) = (ofText b).line offset + a.breaks := by
  have hfront : (breaksFrom 0 a).countP (· ≤ a.length + offset) = a.breaks := by
    rw [← length_breaksFrom 0 a, List.countP_eq_length]
    intro n hn
    have := breaksFrom_le n hn
    exact decide_eq_true (by omega)
  rw [line_eq, line_eq, breaksFrom_append h, List.countP_append, hfront, Nat.add_comm 0, countP_breaksFrom_add]
  omega

theorem line_behind (a t : Text) (offset : Nat) :
    (ofText (a ++ t)).line (a.length + offset) = (ofText t).line offset + a.linesAhead t := by
  unfold Text.linesAhead
  split
  · next hcut =>
    obtain ⟨a, rfl⟩ := List.getLast?_eq_some_iff.1 hcut.1
    obtain ⟨t, rfl⟩ := List.head?_eq_some_iff.1 hcut.2
    -- cut in front of the carriage return instead, where no terminator is divided
    have hseam : Seam a ('\r' :: '\n' :: t) := Text.seam_of_head rfl (by decide)
    have hbreaks : Text.breaks (a ++ ['\r']) = Text.breaks a + 1 :=
      Text.breaks_append (Text.seam_of_head (c := '\r') rfl (by decide))
    have hline : (ofText ('\r' :: '\n' :: t)).line (1 + offset) = (ofText ('\n' :: t)).line offset := by
      have hpair : breaksFrom 0 ('\r' :: '\n' :: t) = breaksFrom (1 + 0) ('\n' :: t) := by
        rw [breaksFrom, breaksFrom.eq_3 _ _ _ (by simp), if_pos (by simp)]
      rw [line_eq, line_eq, hpair, countP_breaksFrom_add]
    have hwhole := line_append hseam (1 + offset)
    rw [hline] at hwhole
    rw [hbreaks, Nat.add_sub_cancel, ← hwhole, List.length_append, Nat.add_assoc, List.append_assoc]
    rfl
  · next hcut => exact line_append hcut offset

theorem position_behind (a t : Text) (offset : Nat) : Position.Moves a.length (a.linesAhead t)
    ((ofText t).position offset) ((ofText (a ++ t)).position (a.length + offset)) := by
  have hline := one_le_line t offset
  have hbehind := line_behind a t offset
  refine ⟨rfl, ?_⟩
  simp only [position]
  omega

end Locator

/-! ### Where a fault stands -/

/-- A token that never ends is reported where it starts. -/
theorem Token.rest_of_read {c : Char} {t : Text} {f : Failure} (h : read c t = .error f) : f.rest = c :: t := by
  have hanswers := answers_read c t
  rw [h] at hanswers
  exact hanswers.1

/-- The end of a template is missed at its opening tag, at the one of an element in it, or at what stands in the way. -/
theorem Template.rest_suffix_of_findEnd {whole root t : Text} {opened : List OpenElement} {f : Failure}
    (hroot : root <:+ whole) (hopened : ∀ e ∈ opened, e.start <:+ whole) (ht : t <:+ whole)
    (h : findEnd root opened t = .error f) : f.rest <:+ whole := by
  have step {c : Char} {t rest : Text} {k : Token} (ht : c :: t <:+ whole) (hr : Token.read c t = .ok (k, rest)) :
      rest <:+ whole := ((Token.suffix_of_read hr).trans (List.suffix_cons ..)).trans ht
  fun_induction findEnd root opened t with
  | case1 =>
    cases h
    exact hroot
  | case2 e outer =>
    cases h
    exact hopened e (List.mem_cons_self ..)
  | case3 opened c t f' hr =>
    cases h
    rwa [Token.rest_of_read hr]
  | case4 opened c t kind rest hr ih => exact ih hopened (step ht hr) h
  | case5 opened c t name rest hr ih => exact ih (List.forall_mem_cons.2 ⟨ht, hopened⟩) (step ht hr) h
  | case6 => cases h
  | case7 =>
    cases h
    exact ht
  | case8 c t rest e outer hr ih => exact ih (List.forall_mem_cons.1 hopened).2 (step ht hr) h
  | case9 =>
    cases h
    exact ht

theorem Block.rest_suffix_of_read {tag : OpeningTag} {t inside : Text} {f : Failure} (hin : inside <:+ t)
    (h : read tag t inside = .error f) : f.rest <:+ t := by
  unfold read at h
  cases he : findEnd tag t inside with
  | ok e =>
    rw [he] at h
    cases h
  | error f' =>
    rw [he] at h
    cases h
    unfold findEnd at he
    dsimp only at he
    split at he
    · cases he
    · split at he
      · exact Template.rest_suffix_of_findEnd (List.suffix_refl _) (List.forall_mem_nil _) hin he
      · split at he
        · cases he
        · cases he
          exact List.suffix_refl _

theorem Piece.rest_suffix_of_read {c : Char} {t : Text} {f : Failure} (h : read c t = .error f) :
    f.rest <:+ c :: t := by
  have hgap {mark : String} {fault : Fault} {u inside : Text} (h : gapUntil mark fault u inside = .error f) :
      f.rest <:+ u := by
    unfold gapUntil at h
    split at h
    · cases h
    · cases h
      exact List.suffix_refl _
  unfold read at h
  split at h
  · next hlt =>
    subst hlt
    unfold readTag at h
    split at h
    · exact hgap h
    · split at h
      · exact hgap h
      · exact hgap h
      · cases h
        exact List.suffix_refl _
      · split at h
        · cases h
        · next tag inside hr =>
          have hin := (OpeningTag.suffix_of_read? hr).trans (List.suffix_cons '<' t)
          cases hb : Block.read tag ('<' :: t) inside with
          | ok q =>
            rw [hb] at h
            cases h
          | error f' =>
            rw [hb] at h
            cases h
            exact Block.rest_suffix_of_read hin hb
  · cases h

theorem Outline.rest_suffix_of_failure? {t : Text} {f : Failure} (h : (ofText t).failure? = some f) :
    f.rest <:+ t := by
  fun_induction ofText t with
  | case1 => cases h
  | case2 c t p rest hr ih => exact (ih h).trans ((Piece.append_of_read hr).2.trans (List.suffix_cons ..))
  | case3 c t f' hr =>
    cases h
    exact Piece.rest_suffix_of_read hr

/-! ### Blocks further on -/

namespace Placed

def moved (k : Nat) (p : Placed) : Placed := { p with start := k + p.start }

theorem ofPieces_add (k start : Nat) (pieces : List Piece) :
    ofPieces (k + start) pieces = (ofPieces start pieces).map (moved k) := by
  fun_induction ofPieces start pieces with
  | case1 => rfl
  | case2 start s more ih => rw [ofPieces, Nat.add_assoc, ih]
  | case3 start b more ih => rw [ofPieces, Nat.add_assoc, ih, List.map_cons, moved]

theorem firstRepeat?_moved (k : Nat) (taken : List Singleton) (blocks : List Placed) :
    firstRepeat? taken (blocks.map (moved k)) = (firstRepeat? taken blocks).map fun r => (r.1.moved k, r.2) := by
  fun_induction firstRepeat? taken blocks with
  | case1 => rfl
  | case2 taken p more kind hs hk => simp only [List.map_cons, firstRepeat?, moved, hs, hk, if_true, Option.map_some]
  | case3 taken p more kind hs hk ih =>
    simpa only [List.map_cons, firstRepeat?, moved, hs, hk, Bool.false_eq_true, if_false] using ih
  | case4 taken p more hs ih =>
    rw [List.map_cons, firstRepeat?.eq_2]
    split
    · next kind hkind => exact absurd hkind (hs kind)
    · exact ih

end Placed

structure SourceLocation.Moves (k lines : Nat) (a b : SourceLocation) : Prop where
  start : Position.Moves k lines a.start b.start
  stop : Position.Moves k lines a.stop b.stop
  source : b.source = a.source

/-- The block with its name, attributes and content is the same, and its record in the text `u` is the one in `t`
moved. -/
structure Placed.Moves (k lines : Nat) (t u : Text) (p q : Placed) : Prop where
  block : q.block = p.block
  loc : SourceLocation.Moves k lines (p.loc (Locator.ofText t)) (q.loc (Locator.ofText u))
  tagLoc : SourceLocation.Moves k lines (p.tagLoc (Locator.ofText t)) (q.tagLoc (Locator.ofText u))

theorem Placed.moves_moved (a t : Text) (p : Placed) :
    Moves a.length (a.linesAhead t) t (a ++ t) p (p.moved a.length) := by
  have hmoves {offset offset' : Nat} (h : offset' = a.length + offset) : Position.Moves a.length (a.linesAhead t)
      ((Locator.ofText t).position offset) ((Locator.ofText (a ++ t)).position offset') :=
    h ▸ Locator.position_behind a t offset
  have hcontentStart : (p.moved a.length).contentStart = a.length + p.contentStart := Nat.add_assoc ..
  have hcontentEnd : (p.moved a.length).contentEnd = a.length + p.contentEnd := by
    rw [contentEnd, hcontentStart, Nat.add_assoc]
    rfl
  have hstop : (p.moved a.length).stop = a.length + p.stop := by
    rw [stop, hcontentEnd, Nat.add_assoc]
    rfl
  exact ⟨rfl, ⟨hmoves hcontentStart, hmoves hcontentEnd, rfl⟩, ⟨hmoves rfl, hmoves hstop, rfl⟩⟩

namespace Component

theorem ofText_behind {a : Text} (ha : '<' ∉ a) (t : Text) : ofText (a ++ t) = match ofText t with
    | .ok c => .ok ⟨c.blocks.map (Placed.moved a.length)⟩
    | .error e => .error ⟨e.fault, e.line + a.linesAhead t⟩ := by
  obtain ⟨hfailure, hplaced⟩ := (Gap.of_not_mem ha t).ofText
  have hblocks : Placed.ofPieces 0 (Outline.ofText (a ++ t)).pieces =
      (Placed.ofPieces 0 (Outline.ofText t).pieces).map (Placed.moved a.length) := by
    rw [hplaced, Nat.zero_add, ← Placed.ofPieces_add, Nat.add_zero]
  unfold ofText
  dsimp only
  rw [hblocks, Placed.firstRepeat?_moved, hfailure]
  cases Placed.firstRepeat? [] (Placed.ofPieces 0 (Outline.ofText t).pieces) with
  | some r =>
    dsimp only [Option.map_some, Placed.moved]
    rw [Locator.line_behind]
  | none =>
    dsimp only [Option.map_none]
    cases hf : (Outline.ofText t).failure? with
    | none => rfl
    | some f =>
      have hlen := (Outline.rest_suffix_of_failure? hf).length_le
      dsimp only
      rw [List.length_append, Nat.add_sub_assoc hlen, Locator.line_behind]

/-- A text without an opening bracket in front does not change whether a text is read. It does not change the blocks
and their order, in any place of the component; their records move by its length and by its lines. A fault stays the
same, as many lines further down. -/
theorem lead_in {a : Text} (ha : '<' ∉ a) (t : Text) :
    ((∃ c, ofText (a ++ t) = .ok c) ↔ ∃ c, ofText t = .ok c) ∧
    (∀ c c', ofText t = .ok c → ofText (a ++ t) = .ok c' →
      List.Forall₂ (Placed.Moves a.length (a.linesAhead t) t (a ++ t)) c.blocks c'.blocks ∧
      ∀ slot, List.Forall₂ (Placed.Moves a.length (a.linesAhead t) t (a ++ t)) (c.inSlot slot) (c'.inSlot slot)) ∧
    ∀ e e', ofText t = .error e → ofText (a ++ t) = .error e' →
      e'.fault = e.fault ∧ e'.line = e.line + a.linesAhead t := by
  have hmoves (blocks : List Placed) : List.Forall₂ (Placed.Moves a.length (a.linesAhead t) t (a ++ t)) blocks
      (blocks.map (Placed.moved a.length)) := by
    rw [List.forall₂_map_right_iff, List.forall₂_same]
    exact fun p _ => p.moves_moved a t
  rw [ofText_behind ha]
  cases ofText t with
  | ok c =>
    refine ⟨by simp, ?_, fun e e' h => (nomatch h)⟩
    rintro _ _ ⟨⟩ ⟨⟩
    refine ⟨hmoves c.blocks, fun slot => ?_⟩
    have hslot : inSlot ⟨c.blocks.map (Placed.moved a.length)⟩ slot = (c.inSlot slot).map (Placed.moved a.length) :=
      List.filter_map
    rw [hslot]
    exact hmoves (c.inSlot slot)
  | error e =>
    refine ⟨by simp, fun c c' h => (nomatch h), ?_⟩
    rintro _ _ ⟨⟩ ⟨⟩
    exact ⟨rfl, rfl⟩

/-- A carriage return in front of a line feed. -/
theorem lead_in_joined :
    let a : Text := "0\r1 > 2\r".toList
    let t : Text := "\n<style>b</style>".toList
    let c : Component := ⟨[⟨1, ⟨"style".toList, [], "<style>".toList, "b".toList, "</style>".toList⟩⟩]⟩
    '<' ∉ a ∧ a.linesAhead t = 1 ∧ ofText t = .ok c ∧ ∃ c', ofText (a ++ t) = .ok c' ∧
      List.Forall₂ (Placed.Moves 8 1 t (a ++ t)) c.blocks c'.blocks := by
  intro a t c
  have ha : '<' ∉ a := by decide
  have hlines : a.linesAhead t = 1 := by decide +kernel
  have ht : ofText t = .ok c := ofText_of_toOption (by decide +kernel)
  obtain ⟨hread, hmoves, -⟩ := lead_in ha t
  obtain ⟨c', hc'⟩ := hread.2 ⟨c, ht⟩
  exact ⟨ha, hlines, ht, c', hc', hlines ▸ (hmoves c c' ht hc').1⟩

end Component

end ComponentFormat
