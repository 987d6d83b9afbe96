import ComponentFormat.Proofs.Balance
import ComponentFormat.Proofs.Extraction

/-! # What stands between the blocks

A component text is its blocks with gaps around them, and a gap is made of comments, declarations and characters at
which no tag opens. A text has one such tiling (`Tiled.unique`), and reading it gives the blocks of the tiling unless
two of them take one place (`Component.ofText_eq_ok_iff`, `Component.blocks_tiled`).
-/
namespace ComponentFormat

namespace Text

theorem First.contains_before {needle before rest t : Text} (h : First needle before rest t) (hne : needle ≠ []) :
    contains needle before = false := by
  refine contains_eq_false_iff.2 fun a b hb => ?_
  have hlen := h.least a (b ++ needle ++ rest) (by rw [h.text, hb]; simp)
  have hpos := List.length_pos_iff.2 hne
  simp only [hb, List.length_append] at hlen
  omega

theorem not_mem_of_contains {c : Char} {t : Text} (h : contains [c] t = false) : c ∉ t := by
  intro hc
  obtain ⟨a, b, rfl⟩ := List.append_of_mem hc
  exact contains_eq_false_iff.1 h a b (by simp)

theorem cut?_singleton {c : Char} {t : Text} (h : c ∉ t) (rest : Text) :
    cut? [c] (t ++ c :: rest) = some (t, rest) := by
  induction t with
  | nil => simp [cut?, after?]
  | cons d t ih =>
    obtain ⟨hd, ht⟩ := not_or.1 (mt List.mem_cons.2 h)
    have hnone : after? [c] (d :: (t ++ c :: rest)) = none := by simp [after?, hd]
    rw [List.cons_append, cut?, hnone]
    dsimp only
    rw [ih ht, Option.map_some]

/-- A text that no comment starts does not start one by what follows its angle bracket. -/
theorem ne_comment_append {t : Text} (h : ∀ u, t ≠ "!--".toList ++ u) (rest : Text) (u : Text) :
    t ++ '>' :: rest ≠ "!--".toList ++ u := by
  simp only [String.reduceToList] at h ⊢
  rcases t with _ | ⟨x, _ | ⟨y, _ | ⟨z, t⟩⟩⟩
  · simp
  · simp
  · simp
  · intro he
    simp only [List.cons_append, List.nil_append, List.cons.injEq] at he
    obtain ⟨rfl, rfl, rfl, -⟩ := he
    exact h t rfl

end Text

namespace Gap

/-- What is no block and stands whole in front of `next`: a comment, a declaration, a character, or an opening bracket
that opens nothing there. -/
inductive Part (next : Text) : Text → Prop
  | comment {inside : Text} (h : Text.contains "-->".toList inside = false) :
      Part next ("<!--".toList ++ inside ++ "-->".toList)
  | declaration {mark : Char} {inside : Text} (hmark : mark = '!' ∨ mark = '?') (hend : '>' ∉ inside)
      (hcomment : ∀ u, mark :: inside ≠ "!--".toList ++ u) : Part next ('<' :: mark :: inside ++ ['>'])
  | character {c : Char} (h : c ≠ '<') : Part next [c]
  | bracket (hnext : ∀ c ∈ next.head?, c ≠ '/' ∧ c ≠ '!' ∧ c ≠ '?') (h : OpeningTag.read? ('<' :: next) = none) :
      Part next ['<']

end Gap

/-- A text in front of `next` that falls into parts without a block. -/
inductive Gap (next : Text) : Text → Prop
  | nil : Gap next []
  | cons {s g : Text} (hs : Gap.Part (g ++ next) s) (hg : Gap next g) : Gap next (s ++ g)

/-- In front of `rest` the block is one: an opening tag stands at its front, and the block that this tag opens is read
whole. -/
def Block.Stands (b : Block) (rest : Text) : Prop :=
  ∃ tag inside, OpeningTag.read? (b.source ++ rest) = some (tag, inside) ∧
    Block.read tag (b.source ++ rest) inside = .ok (b, rest)

theorem Block.Stands.unique {b b' : Block} {rest rest' : Text} (h : b.Stands rest) (h' : b'.Stands rest')
    (ht : b.source ++ rest = b'.source ++ rest') : b = b' ∧ rest = rest' := by
  obtain ⟨tag, inside, hread, hb⟩ := h
  obtain ⟨tag', inside', hread', hb'⟩ := h'
  rw [ht, hread'] at hread
  cases hread
  rw [ht, hb'] at hb
  cases hb
  exact ⟨rfl, rfl⟩

/-- From offset `pos` on, the text is the blocks with gaps in front of them, between them and behind them. -/
inductive Tiled : Nat → List Placed → Text → Prop
  | last {pos : Nat} {g : Text} (hg : Gap [] g) : Tiled pos [] g
  | block {pos : Nat} {blocks : List Placed} {b : Block} {g rest : Text} (hg : Gap (b.source ++ rest) g)
      (hb : b.Stands rest) (h : Tiled (pos + g.length + b.length) blocks rest) :
      Tiled pos (⟨pos + g.length, b⟩ :: blocks) (g ++ (b.source ++ rest))

namespace Piece

def Stands : Piece → Text → Prop
  | .gap s, rest => Gap.Part rest s
  | .block b, rest => b.Stands rest

theorem read_bracket (t : Text) : read '<' t = readTag t := if_pos rfl

theorem readTag_comment (inside : Text) : readTag ("!--".toList ++ inside) =
    gapUntil "-->" .unterminatedComment ("<!--".toList ++ inside) inside := by
  have hmark : Text.after? "!--".toList ("!--".toList ++ inside) = some inside := Text.after?_eq_some_iff.2 rfl
  unfold readTag
  rw [hmark]
  rfl

theorem readTag_declaration {mark : Char} (hmark : mark = '!' ∨ mark = '?') {t : Text}
    (hcomment : ∀ inside, mark :: t ≠ "!--".toList ++ inside) : readTag (mark :: t) =
    gapUntil ">" .unterminatedDeclaration ('<' :: mark :: t) (mark :: t) := by
  unfold readTag
  rw [Text.after?_eq_none hcomment]
  rcases hmark with rfl | rfl <;> rfl

theorem readTag_stray (t : Text) :
    readTag ('/' :: t) = .error ⟨.strayClosing (strayName ('<' :: '/' :: t)), '<' :: '/' :: t⟩ := rfl

theorem readTag_opening {t : Text} (ht : ∀ c ∈ t.head?, c ≠ '/' ∧ c ≠ '!' ∧ c ≠ '?') : readTag t =
    match OpeningTag.read? ('<' :: t) with
    | none => .ok (.gap ['<'], t)
    | some (tag, inside) => (Block.read tag ('<' :: t) inside).map fun p => (.block p.1, p.2) := by
  have hcomment : ∀ inside, t ≠ "!--".toList ++ inside := by
    rintro inside rfl
    exact (ht '!' rfl).2.1 rfl
  unfold readTag
  rw [Text.after?_eq_none hcomment]
  dsimp only
  split
  · exact absurd rfl (ht _ rfl).2.1
  · exact absurd rfl (ht _ rfl).2.2
  · exact absurd rfl (ht _ rfl).1
  · rfl

theorem gapUntil_eq_ok_iff {mark : String} {fault : Fault} {lead inside rest : Text} {p : Piece} :
    gapUntil mark fault (lead ++ inside) inside = .ok (p, rest) ↔
      ∃ a, Text.First mark.toList a rest inside ∧ p = .gap (lead ++ (a ++ mark.toList)) := by
  have hgap {a u : Text} (hfirst : Text.First mark.toList a u inside) :
      Text.upTo (lead ++ inside) u = lead ++ (a ++ mark.toList) := by
    rw [hfirst.text, ← List.append_assoc, Text.upTo_append_self]
  unfold gapUntil
  constructor
  · intro h
    split at h
    · next a u hcut =>
      cases h
      exact ⟨a, Text.first_of_cut? hcut, by rw [hgap (Text.first_of_cut? hcut)]⟩
    · cases h
  · rintro ⟨a, hfirst, rfl⟩
    rw [Text.cut?_eq_some_iff.2 hfirst, ← hgap hfirst]

theorem stands_of_read {c : Char} {t rest : Text} {p : Piece} (h : read c t = .ok (p, rest)) : p.Stands rest := by
  have htext := (append_of_read h).1
  unfold read at h
  split at h
  · next hlt =>
    subst hlt
    by_cases hcomment : ∃ inside, t = "!--".toList ++ inside
    · obtain ⟨inside, rfl⟩ := hcomment
      rw [readTag_comment] at h
      obtain ⟨a, hfirst, rfl⟩ := gapUntil_eq_ok_iff.1 h
      rw [← List.append_assoc]
      exact .comment (hfirst.contains_before (by simp))
    by_cases hmark : ∃ mark u, (mark = '!' ∨ mark = '?') ∧ t = mark :: u
    · obtain ⟨mark, u, hmark, rfl⟩ := hmark
      rw [readTag_declaration hmark (not_exists.1 hcomment), ← List.singleton_append] at h
      obtain ⟨a, hfirst, rfl⟩ := gapUntil_eq_ok_iff.1 h
      have ha := Text.not_mem_of_contains (hfirst.contains_before (by simp))
      have hu := hfirst.text
      cases a with
      | nil =>
        obtain ⟨rfl, -⟩ := List.cons.inj hu
        exact absurd hmark (by decide)
      | cons d a =>
        obtain ⟨rfl, -⟩ := List.cons.inj hu
        refine .declaration hmark (not_or.1 (mt List.mem_cons.2 ha)).2 fun v hv => hcomment ⟨v ++ '>' :: rest, ?_⟩
        rw [hu, hv]
        simp
    by_cases hstroke : ∃ u, t = '/' :: u
    · obtain ⟨u, rfl⟩ := hstroke
      rw [readTag_stray] at h
      cases h
    have hhead : ∀ d ∈ t.head?, d ≠ '/' ∧ d ≠ '!' ∧ d ≠ '?' := by
      intro d hd
      obtain ⟨u, rfl⟩ := List.head?_eq_some_iff.1 hd
      refine ⟨?_, ?_, ?_⟩
      · rintro rfl
        exact hstroke ⟨u, rfl⟩
      · rintro rfl
        exact hmark ⟨_, u, .inl rfl, rfl⟩
      · rintro rfl
        exact hmark ⟨_, u, .inr rfl, rfl⟩
    rw [readTag_opening hhead] at h
    split at h
    · next hread =>
      cases h
      exact .bracket hhead hread
    · next tag inside hread =>
      cases hb : Block.read tag ('<' :: t) inside with
      | error f => rw [hb] at h; cases h
      | ok q =>
        rw [hb] at h
        cases h
        rw [htext] at hread hb
        exact ⟨tag, inside, hread, hb⟩
  · next hlt =>
    cases h
    exact .character hlt

theorem Stands.exists_read {p : Piece} {rest : Text} (h : p.Stands rest) :
    ∃ c u, p.source ++ rest = c :: u ∧ read c u = .ok (p, rest) := by
  cases p with
  | gap s =>
    cases h with
    | @comment inside h =>
      refine ⟨'<', "!--".toList ++ (inside ++ '-' :: '-' :: '>' :: rest), by simp [source], ?_⟩
      have hfirst := Text.cut?_eq_some_iff.1 (Text.cut?_comment h rest)
      rw [read_bracket, readTag_comment, List.append_assoc "<!--".toList]
      exact gapUntil_eq_ok_iff.2 ⟨inside, hfirst, rfl⟩
    | @declaration mark inside hmark hend hcomment =>
      refine ⟨'<', mark :: (inside ++ '>' :: rest), by simp [source], ?_⟩
      have hmem : '>' ∉ mark :: inside := by
        rw [List.mem_cons]
        rintro (rfl | hm)
        · exact absurd hmark (by decide)
        · exact hend hm
      have hfirst : Text.First ">".toList (mark :: inside) rest (mark :: (inside ++ '>' :: rest)) :=
        Text.cut?_eq_some_iff.1 (Text.cut?_singleton hmem rest)
      have hread := readTag_declaration hmark (t := inside ++ '>' :: rest) (Text.ne_comment_append hcomment rest)
      rw [read_bracket, hread, ← List.singleton_append]
      exact gapUntil_eq_ok_iff.2 ⟨mark :: inside, hfirst, rfl⟩
    | @character c h => exact ⟨c, rest, rfl, if_neg h⟩
    | bracket hnext h =>
      refine ⟨'<', rest, rfl, ?_⟩
      rw [read_bracket, readTag_opening hnext, h]
  | block b =>
    obtain ⟨tag, inside, hread, hb⟩ := h
    obtain ⟨c, u, hu, hc⟩ := OpeningTag.letter_of_read? hread
    have hhead : ∀ d ∈ (c :: u).head?, d ≠ '/' ∧ d ≠ '!' ∧ d ≠ '?' := by
      rintro d ⟨⟩
      refine ⟨?_, ?_, ?_⟩ <;> rintro rfl <;> cases hc
    rw [hu] at hread hb
    refine ⟨'<', c :: u, hu, ?_⟩
    rw [read_bracket, readTag_opening hhead, hread]
    dsimp only
    rw [hb]
    rfl

end Piece

namespace Outline

theorem ofText_cons {c : Char} {t rest : Text} {p : Piece} (h : Piece.read c t = .ok (p, rest)) :
    ofText (c :: t) = (ofText rest).push p := by
  rw [ofText.eq_def]
  dsimp only
  split <;> next h' =>
    rw [h] at h'
    cases h'
    try rfl

end Outline

theorem Gap.of_not_mem {g : Text} (h : '<' ∉ g) (next : Text) : Gap next g := by
  induction g with
  | nil => exact .nil
  | cons c g ih =>
    obtain ⟨hc, hg⟩ := not_or.1 (mt List.mem_cons.2 h)
    exact .cons (s := [c]) (.character (Ne.symm hc)) (ih hg)

theorem Gap.ofText {next g : Text} (h : Gap next g) :
    (Outline.ofText (g ++ next)).failure? = (Outline.ofText next).failure? ∧ ∀ start,
      Placed.ofPieces start (Outline.ofText (g ++ next)).pieces =
        Placed.ofPieces (start + g.length) (Outline.ofText next).pieces := by
  induction h with
  | nil => exact ⟨rfl, fun _ => rfl⟩
  | @cons s g hs _ ih =>
    obtain ⟨c, u, hu, hread⟩ := Piece.Stands.exists_read (p := .gap s) hs
    obtain ⟨hfail, hplaced⟩ := ih
    rw [List.append_assoc, show s ++ (g ++ next) = c :: u from hu, Outline.ofText_cons hread]
    refine ⟨hfail, fun start => ?_⟩
    rw [Outline.push, Placed.ofPieces, hplaced, List.length_append, Nat.add_assoc]

namespace Tiled
variable {pos : Nat} {blocks blocks' : List Placed} {t : Text}

theorem part {s : Text} (hs : Gap.Part t s) (h : Tiled (pos + s.length) blocks t) : Tiled pos blocks (s ++ t) := by
  cases h with
  | last hg => exact .last (.cons (by rwa [List.append_nil]) hg)
  | @block _ blocks b g rest hg hb h =>
    have hlen : pos + s.length + g.length = pos + (s ++ g).length := by rw [List.length_append, Nat.add_assoc]
    rw [hlen] at h ⊢
    rw [← List.append_assoc]
    exact .block (.cons hs hg) hb h

theorem gap {g : Text} (hg : Gap t g) (h : Tiled (pos + g.length) blocks t) : Tiled pos blocks (g ++ t) := by
  induction hg generalizing pos with
  | nil => exact h
  | @cons s g hs _ ih =>
    rw [List.append_assoc]
    rw [List.length_append, ← Nat.add_assoc] at h
    exact part hs (ih h)

theorem ofText (t : Text) (h : (Outline.ofText t).failure? = none) (pos : Nat) :
    Tiled pos (Placed.ofPieces pos (Outline.ofText t).pieces) t := by
  fun_induction Outline.ofText t generalizing pos with
  | case1 => exact .last .nil
  | case2 c t p rest hread ih =>
    rw [(Piece.append_of_read hread).1]
    have hstands := Piece.stands_of_read hread
    cases p with
    | gap s => exact part hstands (ih h (pos + s.length))
    | block b => exact .block (g := []) .nil hstands (ih h (pos + b.length))
  | case3 => cases h

/-- A tiling is what the outline of its text says. -/
theorem placed_eq (h : Tiled pos blocks t) :
    (Outline.ofText t).failure? = none ∧ Placed.ofPieces pos (Outline.ofText t).pieces = blocks := by
  induction h with
  | @last pos g hg =>
    obtain ⟨hfail, hplaced⟩ := hg.ofText
    rw [List.append_nil] at hfail hplaced
    rw [hplaced, hfail, Outline.ofText]
    exact ⟨rfl, rfl⟩
  | @block pos blocks b g rest hg hb _ ih =>
    obtain ⟨c, u, hu, hread⟩ := Piece.Stands.exists_read (p := .block b) hb
    obtain ⟨hfail, hplaced⟩ := hg.ofText
    rw [hplaced, hfail, show b.source ++ rest = c :: u from hu, Outline.ofText_cons hread]
    exact ⟨ih.1, by rw [Outline.push, Placed.ofPieces, ih.2]⟩

theorem unique (h : Tiled pos blocks t) (h' : Tiled pos blocks' t) : blocks = blocks' :=
  h.placed_eq.2.symm.trans h'.placed_eq.2

end Tiled

theorem Placed.firstRepeat?_eq_none {taken : List Singleton} {blocks : List Placed}
    (h : ∀ k : Singleton,
      (blocks.filter (·.block.slot = .single k)).length + (if k ∈ taken then 1 else 0) ≤ 1) :
    firstRepeat? taken blocks = none := by
  fun_induction firstRepeat? taken blocks with
  | case1 => rfl
  | case2 taken p more kind hs hk =>
    have := h kind
    rw [List.filter_cons_of_pos (by simp [hs]), if_pos (by simpa using hk), List.length_cons] at this
    omega
  | case3 taken p more kind hs hk ih =>
    refine ih fun k => ?_
    have := h k
    by_cases he : k = kind
    · subst he
      rw [List.filter_cons_of_pos (by simp [hs]), List.length_cons] at this
      rw [if_pos (List.mem_cons_self ..)]
      omega
    · rw [List.filter_cons_of_neg (by simp [hs, Ne.symm he])] at this
      simpa [he] using this
  | case4 taken p more hs ih =>
    refine ih fun k => ?_
    have := h k
    rwa [List.filter_cons_of_neg (by simpa using hs k)] at this

namespace Component

/-- The blocks place by place: the template, the script, the setup script, the styles, and the rest. -/
def fields (c : Component) : List Placed :=
  (c.single? .template).toList ++ (c.single? .script).toList ++ (c.single? .scriptSetup).toList ++ c.styles ++
    c.customBlocks

/-- A text is read exactly where it has a tiling in which no two blocks take one place. -/
theorem ofText_eq_ok_iff {t : Text} {c : Component} : ofText t = .ok c ↔
    Tiled 0 c.blocks t ∧ ∀ kind : Singleton, (c.inSlot (.single kind)).length ≤ 1 := by
  constructor
  · intro h
    obtain ⟨hfail, hblocks, -⟩ := ofText_eq_ok h
    exact ⟨hblocks ▸ Tiled.ofText t hfail 0, length_inSlot_single_le h⟩
  · rintro ⟨htiled, hsingle⟩
    obtain ⟨hfail, hplaced⟩ := htiled.placed_eq
    have hrepeat : Placed.firstRepeat? [] c.blocks = none :=
      Placed.firstRepeat?_eq_none fun k => by simpa [inSlot] using hsingle k
    unfold ofText
    dsimp only
    rw [hplaced, hrepeat, hfail]

theorem perm_slots (blocks : List Placed) :
    List.Perm (blocks.filter (·.block.slot = .single .template) ++ blocks.filter (·.block.slot = .single .script) ++
      blocks.filter (·.block.slot = .single .scriptSetup) ++ blocks.filter (·.block.slot = .style) ++
      blocks.filter (·.block.slot = .custom)) blocks := by
  induction blocks with
  | nil => exact .nil
  | cons p more ih =>
    simp only [List.append_assoc] at ih ⊢
    rcases hs : p.block.slot with (_ | _ | _) | _ | _
    · simpa [hs] using ih.cons p
    · simpa [hs] using List.perm_middle.trans (ih.cons p)
    · rw [← List.append_assoc] at ih
      simpa [hs] using List.perm_middle.trans (ih.cons p)
    · rw [← List.append_assoc, ← List.append_assoc] at ih
      simpa [hs] using List.perm_middle.trans (ih.cons p)
    · rw [← List.append_assoc, ← List.append_assoc, ← List.append_assoc] at ih
      simpa [hs] using List.perm_middle.trans (ih.cons p)

theorem perm_fields {t : Text} {c : Component} (h : ofText t = .ok c) : c.fields.Perm c.blocks := by
  have hsingle (kind : Singleton) : (c.single? kind).toList = c.inSlot (.single kind) := by
    have hlen := length_inSlot_single_le h kind
    unfold single?
    match c.inSlot (.single kind), hlen with
    | [], _ => rfl
    | [p], _ => rfl
  rw [fields, hsingle, hsingle, hsingle]
  exact perm_slots c.blocks

/-- A text that is read is the blocks with gaps around them, and has no other tiling. Each block is in exactly one
place of the component, and they stand one after the other. -/
theorem blocks_tiled {t : Text} {c : Component} (h : ofText t = .ok c) :
    Tiled 0 c.blocks t ∧ (∀ blocks, Tiled 0 blocks t → blocks = c.blocks) ∧ c.fields.Perm c.blocks ∧
      c.blocks.Pairwise fun p q => p.stop ≤ q.start := by
  have htiled := (ofText_eq_ok_iff.1 h).1
  exact ⟨htiled, fun blocks hblocks => hblocks.unique htiled, perm_fields h, pairwise_blocks h⟩

/-- A style behind another one in a comment, and a bracket that opens nothing between them. -/
def commentedStyle : Text := "<!-- <style> --> 1 < 2\n<style>a</style><x/>".toList

theorem blocks_tiled_commentedStyle :
    let c : Component := ⟨[⟨23, ⟨"style".toList, [], "<style>".toList, "a".toList, "</style>".toList⟩⟩,
      ⟨39, ⟨"x".toList, [], "<x/>".toList, [], []⟩⟩]⟩
    ofText commentedStyle = .ok c ∧ Tiled 0 c.blocks commentedStyle ∧
      (∀ blocks, Tiled 0 blocks commentedStyle → blocks = c.blocks) ∧ c.fields.Perm c.blocks ∧
      c.blocks.Pairwise fun p q => p.stop ≤ q.start := by
  intro c
  have h : ofText commentedStyle = .ok c := ofText_of_toOption (by decide +kernel)
  exact ⟨h, blocks_tiled h⟩

end Component

end ComponentFormat
