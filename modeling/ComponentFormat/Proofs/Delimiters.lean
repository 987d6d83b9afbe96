import ComponentFormat.Component.Basic

/-! # The brackets around tags and blocks

Whatever a reader takes for a tag starts with an opening bracket and ends with the closing one, so a block starts
and ends with a bracket and stands in its text as one piece. Main statements: `Block.delimited_of_read`, and
`Component.sits_of_mem`, a block of a component stands where its offset says.
-/
namespace ComponentFormat

theorem Text.upTo_append_self (a rest : Text) : Text.upTo (a ++ rest) rest = a := by
  simp [Text.upTo]

theorem OpeningTag.bracket_of_readEnd? {t rest : Text} {b : Bool} (h : readEnd? t = some (b, rest)) :
    '>' :: rest <:+ t := by
  have hs := List.dropWhile_suffix (l := t) isBlank
  unfold readEnd? at h
  split at h
  · next r hr =>
    cases h
    rw [hr] at hs
    exact (List.suffix_cons ..).trans hs
  · next r hr =>
    cases h
    rwa [hr] at hs
  · cases h

theorem OpeningTag.bracket_of_read? {t rest : Text} {tag : OpeningTag} (h : read? t = some (tag, rest)) :
    ∃ u, t = '<' :: u ∧ '>' :: rest <:+ u := by
  unfold read? at h
  split at h
  · next c u =>
    split at h
    · obtain ⟨⟨b, r⟩, hr, he⟩ := Option.map_eq_some_iff.1 h
      cases he
      refine ⟨c :: u, rfl, ?_⟩
      exact (bracket_of_readEnd? hr).trans ((afterAttributes_suffix _).trans
        ((List.dropWhile_suffix _).trans (List.suffix_cons ..)))
    · cases h
  · cases h

theorem ClosingTag.bracket_of_read? {t name rest : Text} (h : read? t = some (name, rest)) :
    ∃ u, t = '<' :: u ∧ '>' :: rest <:+ u := by
  unfold read? at h
  split at h
  · next c u =>
    split at h
    · split at h
      · next r hr =>
        cases h
        have hs := (List.dropWhile_suffix (l := u.dropWhile isTagNameChar) isBlank).trans
          (List.dropWhile_suffix (l := u) isTagNameChar)
        rw [hr] at hs
        exact ⟨'/' :: c :: u, rfl, hs.trans ((List.suffix_cons ..).trans (List.suffix_cons ..))⟩
      · cases h
    · cases h
  · cases h

theorem ClosingTag.bracket_of_readNamed? {name t rest : Text} (h : readNamed? name t = some rest) :
    ∃ u, t = '<' :: u ∧ '>' :: rest <:+ u := by
  unfold readNamed? at h
  split at h
  · cases h
  · next u hu =>
    split at h
    · next r hr =>
      cases h
      obtain ⟨v, hv, he⟩ := Option.map_eq_some_iff.1 hr
      have hs := List.dropWhile_suffix (l := v) isBlank
      rw [he] at hs
      refine ⟨'/' :: u, by simpa using Text.after?_eq_some_iff.1 hu, ?_⟩
      exact hs.trans ((Text.afterCaseless?_suffix hv).trans (List.suffix_cons ..))
    · cases h

/-- The text of an end tag starts with a bracket and ends with one. -/
def EndTag.Bracketed (e : EndTag) : Prop := ∃ u, e.start = '<' :: u ∧ '>' :: e.rest <:+ u

theorem EndTag.bracketed_of_find? {name t : Text} {e : EndTag} (h : find? name t = some e) :
    e.Bracketed := by
  induction t with
  | nil => cases h
  | cons c t ih =>
    rw [find?] at h
    split at h
    · next r hr =>
      cases h
      exact ClosingTag.bracket_of_readNamed? hr
    · exact ih h

theorem Token.bracket_of_read_closing {c : Char} {t name rest : Text}
    (h : read c t = .ok (.closing name, rest)) : ∃ u, c :: t = '<' :: u ∧ '>' :: rest <:+ u := by
  unfold read at h
  split at h
  · next hlt =>
    subst hlt
    unfold readTag at h
    split at h
    · split at h <;> cases h
    · split at h
      · split at h
        · next hr =>
          cases h
          exact ClosingTag.bracket_of_read? hr
        · cases h
      · split at h
        · cases h
        · dsimp only at h
          split at h
          · cases h
          · split at h
            · split at h <;> cases h
            · cases h
  · split at h
    · split at h
      · split at h <;> cases h
      · cases h
    · cases h

theorem Template.bracketed_of_findEnd {root t : Text} {opened : List OpenElement} {e : EndTag}
    (h : findEnd root opened t = .ok e) : e.Bracketed := by
  fun_induction findEnd root opened t with
  | case1 => cases h
  | case2 => cases h
  | case3 => cases h
  | case4 opened c t kind rest hr ih => exact ih h
  | case5 opened c t name rest hr ih => exact ih h
  | case6 c t rest hr =>
    cases h
    exact Token.bracket_of_read_closing hr
  | case7 => cases h
  | case8 c t rest e outer hr ih => exact ih h
  | case9 => cases h

def Text.Bracketed (t : Text) : Prop := ∃ m, t = '<' :: m ++ ['>']

theorem Text.bracketed_upTo {t u rest : Text} (ht : t = '<' :: u) (hs : '>' :: rest <:+ u) :
    (Text.upTo t rest).Bracketed := by
  obtain ⟨m, rfl⟩ := hs
  refine ⟨m, ?_⟩
  rw [ht, ← Text.upTo_append_self ('<' :: m ++ ['>']) rest]
  simp

theorem Text.Bracketed.append {a b : Text} (ha : a.Bracketed) (m : Text) (hb : b.Bracketed) :
    (a ++ m ++ b).Bracketed := by
  obtain ⟨u, rfl⟩ := ha
  obtain ⟨v, rfl⟩ := hb
  exact ⟨u ++ '>' :: m ++ '<' :: v, by simp⟩

theorem Text.Bracketed.head? {t : Text} (h : t.Bracketed) (rest : Text) : (t ++ rest).head? = some '<' := by
  obtain ⟨m, rfl⟩ := h
  rfl

theorem Text.Bracketed.getLast? {t : Text} (h : t.Bracketed) (front : Text) :
    (front ++ t).getLast? = some '>' := by
  obtain ⟨m, rfl⟩ := h
  rw [← List.append_assoc]
  exact List.getLast?_concat

/-- The tags of a block start and end with brackets; a block without an end tag is its opening tag. -/
structure Block.Delimited (b : Block) : Prop where
  opening : b.opening.Bracketed
  closing : b.closing.Bracketed ∨ b.content = [] ∧ b.closing = []

theorem Block.Delimited.source {b : Block} (h : b.Delimited) : b.source.Bracketed := by
  rcases h.closing with hc | ⟨hcontent, hc⟩
  · exact h.opening.append b.content hc
  · simpa [Block.source, hcontent, hc] using h.opening

/-- Of a template whose `lang` is absent or HTML. -/
def Block.Html (name : Text) (attributes : Attributes) : Prop :=
  name = "template".toList ∧
    (attributes.value? "lang" = none ∨ attributes.value? "lang" = some (some "html".toList))

instance (name : Text) (attributes : Attributes) : Decidable (Block.Html name attributes) :=
  inferInstanceAs (Decidable (_ ∧ _))

theorem Block.isHtmlTemplate_iff {name : Text} {attributes : Attributes} :
    isHtmlTemplate name attributes = true ↔ Html name attributes := by
  rw [isHtmlTemplate, Bool.and_eq_true, beq_iff_eq, Html]
  rcases attributes.value? "lang" with _ | value
  · simp
  · simp

theorem Block.exists_of_read {tag : OpeningTag} {t inside rest : Text} {b : Block}
    (h : Block.read tag t inside = .ok (b, rest)) : ∃ e, findEnd tag t inside = .ok e ∧
      b = ⟨Text.lower tag.name, Attributes.ofText tag.attributeText, Text.upTo t inside, Text.upTo inside e.start,
        Text.upTo e.start e.rest⟩ ∧ rest = e.rest := by
  unfold Block.read at h
  cases he : findEnd tag t inside with
  | error f =>
    rw [he] at h
    cases h
  | ok e =>
    rw [he] at h
    cases h
    exact ⟨e, rfl, rfl, rfl⟩

theorem Block.delimited_of_read {tag : OpeningTag} {t inside rest : Text} {b : Block}
    (ht : OpeningTag.read? t = some (tag, inside)) (h : Block.read tag t inside = .ok (b, rest)) :
    b.Delimited := by
  obtain ⟨u, hu, hs⟩ := OpeningTag.bracket_of_read? ht
  obtain ⟨e, he, rfl, rfl⟩ := exists_of_read h
  refine ⟨Text.bracketed_upTo hu hs, ?_⟩
  have hclose (hb : e.Bracketed) : (Text.upTo e.start e.rest).Bracketed := by
    obtain ⟨v, hv, hr⟩ := hb
    exact Text.bracketed_upTo hv hr
  unfold findEnd at he
  dsimp only at he
  split at he
  · cases he
    exact .inr (by simp [Text.upTo])
  · split at he
    · exact .inl (hclose (Template.bracketed_of_findEnd he))
    · split at he
      · next hf =>
        cases he
        exact .inl (hclose (EndTag.bracketed_of_find? hf))
      · cases he

theorem Piece.delimited_of_read {c : Char} {t rest : Text} {b : Block}
    (h : read c t = .ok (.block b, rest)) : b.Delimited := by
  have hgap {mark : String} {fault : Fault} {u inside : Text} :
      gapUntil mark fault u inside ≠ .ok (.block b, rest) := by
    unfold gapUntil
    split <;> simp
  unfold read at h
  split at h
  · unfold readTag at h
    split at h
    · exact absurd h hgap
    · split at h
      · exact absurd h hgap
      · exact absurd h hgap
      · cases h
      · split at h
        · cases h
        · next tag inside hr =>
          cases hb : Block.read tag ('<' :: t) inside with
          | error f => rw [hb] at h; cases h
          | ok q =>
            rw [hb] at h
            cases h
            exact Block.delimited_of_read hr hb
  · cases h

namespace Outline

theorem sources_ofText (t : Text) (h : (ofText t).failure? = none) :
    (ofText t).pieces.flatMap Piece.source = t := by
  fun_induction ofText t with
  | case1 => rfl
  | case2 c t p rest hr ih =>
    rw [(Piece.append_of_read hr).1]
    simp only [push, List.flatMap_cons]
    rw [ih h]
  | case3 => cases h

theorem delimited_of_mem {t : Text} {b : Block} (h : .block b ∈ (ofText t).pieces) : b.Delimited := by
  fun_induction ofText t with
  | case1 => cases h
  | case2 c t p rest hr ih =>
    rcases List.mem_cons.1 h with rfl | h
    · exact Piece.delimited_of_read hr
    · exact ih h
  | case3 => cases h

end Outline

namespace Placed

/-- The block stands in the text between `x` and `y`. -/
structure Sits (p : Placed) (x y t : Text) : Prop where
  text : t = x ++ p.block.source ++ y
  start : p.start = x.length
  delimited : p.block.Delimited

theorem piece_of_mem {start : Nat} {pieces : List Piece} {p : Placed} (h : p ∈ ofPieces start pieces) :
    ∃ pre post, pieces = pre ++ .block p.block :: post ∧
      p.start = start + (pre.flatMap Piece.source).length := by
  fun_induction ofPieces start pieces with
  | case1 => cases h
  | case2 start s more ih =>
    obtain ⟨pre, post, hp, hs⟩ := ih h
    refine ⟨.gap s :: pre, post, by rw [hp]; rfl, ?_⟩
    rw [hs, List.flatMap_cons, List.length_append, Piece.source, Nat.add_assoc]
  | case3 start b more ih =>
    rcases List.mem_cons.1 h with rfl | h
    · exact ⟨[], more, rfl, rfl⟩
    · obtain ⟨pre, post, hp, hs⟩ := ih h
      refine ⟨.block b :: pre, post, by rw [hp]; rfl, ?_⟩
      rw [hs, List.flatMap_cons, List.length_append, Piece.source, Block.length_source, Nat.add_assoc]

theorem length_eq (p : Placed) : p.stop = p.start + p.block.length := by
  simp [stop, contentEnd, contentStart, Block.length, Nat.add_assoc]

theorem start_le_of_mem {start : Nat} {pieces : List Piece} {p : Placed} (h : p ∈ ofPieces start pieces) :
    start ≤ p.start := by
  obtain ⟨pre, post, -, hs⟩ := piece_of_mem h
  omega

theorem pairwise_ofPieces (start : Nat) (pieces : List Piece) :
    (ofPieces start pieces).Pairwise fun p q => p.stop ≤ q.start := by
  fun_induction ofPieces start pieces with
  | case1 => exact .nil
  | case2 start s more ih => exact ih
  | case3 start b more ih =>
    refine List.pairwise_cons.2 ⟨fun q hq => ?_, ih⟩
    rw [length_eq]
    exact start_le_of_mem hq

end Placed

theorem ok_of_toOption {ε α : Type} {x : Except ε α} {a : α} (h : x.toOption = some a) : x = .ok a := by
  cases x with
  | error => cases h
  | ok => exact congrArg _ (Option.some.inj h)

namespace Component

theorem ofText_eq_ok {t : Text} {c : Component} (h : ofText t = .ok c) :
    (Outline.ofText t).failure? = none ∧ c.blocks = Placed.ofPieces 0 (Outline.ofText t).pieces ∧
      Placed.firstRepeat? [] c.blocks = none := by
  unfold ofText at h
  dsimp only at h
  split at h
  · cases h
  · next hrep =>
    split at h
    · cases h
    · next hfail =>
      cases h
      exact ⟨hfail, rfl, hrep⟩

theorem ofText_of_toOption {t : Text} {c : Component} (h : (ofText t).toOption = some c) : ofText t = .ok c :=
  ok_of_toOption h

theorem sits_of_mem {t : Text} {c : Component} (h : ofText t = .ok c) {p : Placed} (hp : p ∈ c.blocks) :
    ∃ x y, p.Sits x y t := by
  obtain ⟨hfail, hblocks, -⟩ := ofText_eq_ok h
  rw [hblocks] at hp
  obtain ⟨pre, post, hpieces, hstart⟩ := Placed.piece_of_mem hp
  have hmem : .block p.block ∈ (Outline.ofText t).pieces := by simp [hpieces]
  have htext := Outline.sources_ofText t hfail
  rw [hpieces, List.flatMap_append, List.flatMap_cons, ← List.append_assoc] at htext
  exact ⟨_, _, htext.symm, by simpa using hstart, Outline.delimited_of_mem hmem⟩

theorem pairwise_blocks {t : Text} {c : Component} (h : ofText t = .ok c) :
    c.blocks.Pairwise fun p q => p.stop ≤ q.start := by
  rw [(ofText_eq_ok h).2.1]
  exact Placed.pairwise_ofPieces ..

end Component

end ComponentFormat
