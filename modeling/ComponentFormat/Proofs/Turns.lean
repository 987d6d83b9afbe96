import ComponentFormat.Proofs.LeadIn

/-! # Turn by turn

A component is read by a loop over an offset, and so is the template in it: a turn looks for the next mark, deals with
what starts there and goes on behind it. Here the two loops are written as such. A turn that is not the last one gets
further in the text whatever it met, so that there are no more turns than characters and one. What the loops end with
is what `Component.ofText` and `Template.findEnd` say (`Component.scans_end`).
-/
namespace ComponentFormat

inductive Turn (σ ρ : Type) where
  | goesOn (s : σ)
  | ends (r : ρ)

namespace Turn
variable {σ ρ : Type}

/-- What the loop ends with, if it takes no more than the given number of turns. -/
def run (turn : σ → Turn σ ρ) : Nat → σ → Option ρ
  | 0, _ => none
  | n + 1, s =>
    match turn s with
    | goesOn s' => run turn n s'
    | ends r => some r

/-- Every turn but the last one moves `pos` on, and not beyond `bound`. -/
def Advances (pos : σ → Nat) (bound : Nat) (turn : σ → Turn σ ρ) : Prop :=
  ∀ s s', turn s = goesOn s' → pos s < pos s' ∧ pos s' ≤ bound

/-- The turn moves on from `s` without a change of what is to come, or says what that is. -/
def Sound (pos : σ → Nat) (bound : Nat) (result : σ → ρ) (s : σ) : Turn σ ρ → Prop
  | goesOn s' => pos s < pos s' ∧ pos s' ≤ bound ∧ result s' = result s
  | ends r => r = result s

variable {pos : σ → Nat} {bound : Nat} {result : σ → ρ} {turn : σ → Turn σ ρ}

@[simp] theorem sound_goesOn {s s' : σ} :
    (goesOn s').Sound pos bound result s ↔ pos s < pos s' ∧ pos s' ≤ bound ∧ result s' = result s := Iff.rfl

@[simp] theorem sound_ends {s : σ} {r : ρ} : (ends r).Sound pos bound result s ↔ r = result s := Iff.rfl

section
variable (h : ∀ s, (turn s).Sound pos bound result s)
include h

theorem step_of_sound {s s' : σ} (hs : turn s = goesOn s') :
    pos s < pos s' ∧ pos s' ≤ bound ∧ result s' = result s := by
  rw [← sound_goesOn, ← hs]
  exact h s

theorem run_of_ends {s : σ} {r : ρ} (hs : turn s = ends r) (n : Nat) : run turn (n + 1) s = some (result s) := by
  have hsound := h s
  rw [hs, sound_ends] at hsound
  rw [run, hs, hsound]

theorem advances_of_sound : Advances pos bound turn := by
  intro s s' hs
  obtain ⟨hlt, hle, -⟩ := step_of_sound h hs
  exact ⟨hlt, hle⟩

/-- A loop of sound turns is over when there is no place left to move on to. -/
theorem run_eq_of_sound {n : Nat} {s : σ} (hn : bound ≤ pos s + n) : run turn (n + 1) s = some (result s) := by
  induction n generalizing s with
  | zero =>
    cases hs : turn s with
    | ends r => exact run_of_ends h hs 0
    | goesOn s' =>
      obtain ⟨hlt, hle, -⟩ := step_of_sound h hs
      omega
  | succ n ih =>
    cases hs : turn s with
    | ends r => exact run_of_ends h hs (n + 1)
    | goesOn s' =>
      obtain ⟨hlt, -, hresult⟩ := step_of_sound h hs
      rw [run, hs, ← hresult]
      exact ih (by omega)

end

end Turn

theorem Text.upTo_ne_nil (c : Char) {t rest : Text} (h : rest <:+ t) : upTo (c :: t) rest ≠ [] := by
  rw [upTo, List.length_cons, Nat.succ_sub h.length_le]
  exact List.cons_ne_nil _ _

/-- Behind some text without marks and what starts at the mark, the offset is further on and still in the text. -/
theorem Text.further {t skipped front rest : Text} {offset : Nat} (h : t.drop offset = skipped ++ (front ++ rest))
    (hfront : front ≠ []) :
    offset < offset + skipped.length + front.length ∧ offset + skipped.length + front.length ≤ t.length ∧
      t.drop (offset + skipped.length + front.length) = rest := by
  have hlen := congrArg List.length h
  have hpos := List.length_pos_iff.2 hfront
  simp only [List.length_drop, List.length_append] at hlen
  refine ⟨by omega, by omega, ?_⟩
  rw [← List.drop_drop, ← List.drop_drop, h, List.drop_left, List.drop_left]

/-! ### The loop over a component -/

theorem Outline.ofText_error {c : Char} {t : Text} {f : Failure} (h : Piece.read c t = .error f) :
    ofText (c :: t) = ⟨[], some f⟩ := by
  rw [ofText.eq_def]
  dsimp only
  split <;> next h' =>
    rw [h] at h'
    cases h'
    try rfl

namespace Component

structure Scan where
  offset : Nat
  taken : List Singleton
  blocks : List Placed

namespace Scan

/-- Add the next block and go on behind it, unless its place is taken. -/
def add (t : Text) (s : Scan) (p : Placed) : Turn Scan (Except ParseError Component) :=
  match p.block.slot with
  | .single kind =>
    if s.taken.contains kind then .ends (.error ⟨.repeated kind, (Locator.ofText t).line p.start⟩)
    else .goesOn ⟨p.stop, kind :: s.taken, s.blocks ++ [p]⟩
  | _ => .goesOn ⟨p.stop, s.taken, s.blocks ++ [p]⟩

/-- One turn: find the next opening bracket and pass over the comment, declaration, block or character there. -/
def turn (t : Text) (s : Scan) : Turn Scan (Except ParseError Component) :=
  let left := t.drop s.offset
  match left.dropWhile (· != '<') with
  | [] => .ends (.ok ⟨s.blocks⟩)
  | _ :: inside =>
    let start := s.offset + (left.takeWhile (· != '<')).length
    match Piece.readTag inside with
    | .error f => .ends (.error ⟨f.fault, (Locator.ofText t).line (t.length - f.rest.length)⟩)
    | .ok (.gap source, _) => .goesOn { s with offset := start + source.length }
    | .ok (.block b, _) => s.add t ⟨start, b⟩

/-- What the text `t` is read as when `left` is what is left of it. -/
def completed (t left : Text) (s : Scan) : Except ParseError Component :=
  let locator := Locator.ofText t
  let outline := Outline.ofText left
  let blocks := Placed.ofPieces s.offset outline.pieces
  match Placed.firstRepeat? s.taken blocks with
  | some (p, kind) => .error ⟨.repeated kind, locator.line p.start⟩
  | none =>
    match outline.failure? with
    | some f => .error ⟨f.fault, locator.line (t.length - f.rest.length)⟩
    | none => .ok ⟨s.blocks ++ blocks⟩

theorem completed_nil (t : Text) (s : Scan) : completed t [] s = .ok ⟨s.blocks⟩ := by
  have hnil : Outline.ofText [] = ⟨[], none⟩ := by rw [Outline.ofText]
  unfold completed
  rw [hnil]
  simp [Placed.ofPieces, Placed.firstRepeat?]

theorem completed_error (t : Text) (s : Scan) {c : Char} {u : Text} {f : Failure} (h : Piece.read c u = .error f) :
    completed t (c :: u) s = .error ⟨f.fault, (Locator.ofText t).line (t.length - f.rest.length)⟩ := by
  unfold completed
  rw [Outline.ofText_error h]
  rfl

theorem completed_gap (t : Text) (s : Scan) {g rest : Text} (hg : Gap rest g) :
    completed t (g ++ rest) s = completed t rest { s with offset := s.offset + g.length } := by
  obtain ⟨hfailure, hplaced⟩ := hg.ofText
  unfold completed
  dsimp only
  rw [hplaced, hfailure]

theorem completed_skip (t : Text) (s : Scan) {c : Char} {u g rest : Text} (h : Piece.read c u = .ok (.gap g, rest)) :
    completed t (c :: u) s = completed t rest { s with offset := s.offset + g.length } := by
  unfold completed
  rw [Outline.ofText_cons h]
  rfl

/-- A block is added, and the rest is read behind it. -/
theorem completed_block (t : Text) (s : Scan) {c : Char} {u rest : Text} {b : Block}
    (h : Piece.read c u = .ok (.block b, rest)) : completed t (c :: u) s =
      match s.add t ⟨s.offset, b⟩ with
      | .goesOn s' => completed t rest s'
      | .ends r => r := by
  have hstop : (⟨s.offset, b⟩ : Placed).stop = s.offset + b.length := Placed.length_eq _
  have happend (blocks : List Placed) :
      s.blocks ++ (⟨s.offset, b⟩ : Placed) :: blocks = s.blocks ++ [⟨s.offset, b⟩] ++ blocks :=
    List.append_cons ..
  unfold completed add
  rw [Outline.ofText_cons h, hstop]
  dsimp only [Outline.push]
  rw [Placed.ofPieces, Placed.firstRepeat?, happend]
  cases b.slot with
  | single kind =>
    by_cases htaken : s.taken.contains kind = true
    · simp only [htaken, if_true]
    · simp only [htaken, Bool.false_eq_true, if_false]
  | style => rfl
  | custom => rfl

def result (t : Text) (s : Scan) : Except ParseError Component := completed t (t.drop s.offset) s

theorem result_start (t : Text) : result t ⟨0, [], []⟩ = ofText t := rfl

theorem offset_of_add {t : Text} {s s' : Scan} {p : Placed} (h : s.add t p = .goesOn s') : s'.offset = p.stop := by
  unfold add at h
  split at h
  · split at h
    · cases h
    · cases h
      rfl
  · cases h
    rfl

theorem sound_add {t rest : Text} {s : Scan} {p : Placed} (hlt : s.offset < p.stop) (hle : p.stop ≤ t.length)
    (hdrop : t.drop p.stop = rest)
    (h : result t s = match s.add t p with | .goesOn s' => completed t rest s' | .ends r => r) :
    (s.add t p).Sound offset t.length (result t) s := by
  cases hadd : s.add t p with
  | goesOn s' =>
    rw [hadd] at h
    rw [Turn.sound_goesOn, offset_of_add hadd, h, result, offset_of_add hadd, hdrop]
    exact ⟨hlt, hle, rfl⟩
  | ends r =>
    rw [hadd] at h
    exact h.symm

theorem further {t skipped u rest : Text} {s : Scan} {c : Char} {p : Piece}
    (hleft : skipped ++ c :: u = t.drop s.offset) (h : Piece.read c u = .ok (p, rest)) :
    s.offset < s.offset + skipped.length + p.source.length ∧
      s.offset + skipped.length + p.source.length ≤ t.length ∧
      t.drop (s.offset + skipped.length + p.source.length) = rest := by
  obtain ⟨hsource, hrest⟩ := Piece.append_of_read h
  refine Text.further (hleft.symm.trans (by rw [hsource])) fun hnil => ?_
  have hlen := hrest.length_le
  rw [hnil, List.nil_append] at hsource
  rw [← hsource, List.length_cons] at hlen
  omega

theorem sound_turn (t : Text) (s : Scan) : (turn t s).Sound offset t.length (result t) s := by
  have hleft := List.takeWhile_append_dropWhile (p := (· != '<')) (l := t.drop s.offset)
  have hgap (next : Text) : Gap next ((t.drop s.offset).takeWhile (· != '<')) :=
    Gap.of_not_mem (fun h => by simpa using List.all_eq_true.1 List.all_takeWhile _ h) next
  unfold turn
  dsimp only
  generalize (t.drop s.offset).takeWhile (· != '<') = skipped at hleft hgap ⊢
  split
  · next hbracket =>
    rw [hbracket] at hleft
    rw [Turn.sound_ends, result, ← hleft, completed_gap t s (hgap []), completed_nil]
  · next c inside hbracket =>
    have hc := Text.head?_dropWhile (p := (· != '<')) (t := t.drop s.offset) c (by rw [hbracket]; rfl)
    obtain rfl : c = '<' := by simpa using hc
    rw [hbracket] at hleft
    have hresult : result t s = completed t ('<' :: inside) _ :=
      (congrArg (completed t · s) hleft.symm).trans (completed_gap t s (hgap _))
    split
    · next f hread =>
      rw [Turn.sound_ends, hresult, completed_error t _ ((Piece.read_bracket inside).trans hread)]
    · next source rest hread =>
      have hpiece := (Piece.read_bracket inside).trans hread
      obtain ⟨hlt, hle, hdrop⟩ := further hleft hpiece
      refine ⟨hlt, hle, ?_⟩
      rw [hresult, completed_skip t _ hpiece, ← hdrop]
      rfl
    · next b rest hread =>
      have hpiece := (Piece.read_bracket inside).trans hread
      have hstop : (⟨s.offset + skipped.length, b⟩ : Placed).stop =
          s.offset + skipped.length + (Piece.block b).source.length :=
        (Placed.length_eq _).trans (by rw [Piece.source, Block.length_source])
      obtain ⟨hlt, hle, hdrop⟩ := hstop ▸ further hleft hpiece
      exact sound_add hlt hle hdrop (hresult.trans (completed_block t _ hpiece))

end Scan

theorem line_of_error {t : Text} {e : ParseError} (h : ofText t = .error e) :
    1 ≤ e.line ∧ e.line ≤ (Document.ofText t).lineCount := by
  have hline (offset : Nat) : 1 ≤ (Locator.ofText t).line offset ∧
      (Locator.ofText t).line offset ≤ (Document.ofText t).lineCount := by
    refine ⟨Locator.one_le_line t offset, ?_⟩
    rw [Document.lineCount_eq, Document.ofText, Locator.line_eq, ← Locator.length_breaksFrom 0 t]
    exact Nat.succ_le_succ List.countP_le_length
  unfold ofText at h
  dsimp only at h
  split at h
  · cases h
    exact hline _
  · split at h
    · cases h
      exact hline _
    · cases h

end Component

/-! ### The loop over a template -/

namespace Template

/-- The text from the first opening bracket or the first two opening braces on. -/
def toMark : Text → Text
  | [] => []
  | '<' :: t => '<' :: t
  | '{' :: '{' :: t => '{' :: '{' :: t
  | _ :: t => toMark t

theorem toMark_suffix (t : Text) : toMark t <:+ t := by
  fun_induction toMark t with
  | case1 => exact List.suffix_refl _
  | case2 => exact List.suffix_refl _
  | case3 => exact List.suffix_refl _
  | case4 c t _ _ ih => exact ih.trans (List.suffix_cons ..)

/-- What stands in front of the mark leaves the balance as it is. -/
theorem findEnd_toMark (root : Text) (opened : List OpenElement) (t : Text) :
    findEnd root opened (toMark t) = findEnd root opened t := by
  fun_induction toMark t with
  | case1 => rfl
  | case2 => rfl
  | case3 => rfl
  | case4 c t hlt hbraces ih =>
    have hbraces : ∀ inside, c :: t ≠ '{' :: '{' :: inside := fun u h =>
      hbraces u (List.cons.inj h).1 (List.cons.inj h).2
    obtain ⟨_, _, hcons, hread⟩ := (Token.Heads.character hlt hbraces).exists_read
    cases hcons
    rw [ih, findEnd_inert hread]

/-- How far a template is read: up to the offset, with the elements that are open there, innermost first. -/
structure Scan where
  offset : Nat
  opened : List OpenElement

namespace Scan

/-- One turn: find the next mark and pass over the comment, interpolation, tag, element or character there. -/
def turn (root t : Text) (s : Scan) : Turn Scan (Except Failure EndTag) :=
  let left := t.drop s.offset
  match toMark left with
  | [] =>
    match s.opened with
    | [] => .ends (.error ⟨.missingEnd "template".toList, root⟩)
    | e :: _ => .ends (.error ⟨.missingEnd e.name, e.start⟩)
  | c :: inside =>
    let start := s.offset + (Text.upTo left (c :: inside)).length
    match Token.read c inside with
    | .error f => .ends (.error f)
    | .ok (token, rest) =>
      let next := start + (Text.upTo (c :: inside) rest).length
      match token with
      | .inert _ => .goesOn ⟨next, s.opened⟩
      | .opening name => .goesOn ⟨next, ⟨name, c :: inside⟩ :: s.opened⟩
      | .closing name =>
        match s.opened with
        | [] =>
          if name = "template".toList then .ends (.ok ⟨c :: inside, rest⟩)
          else .ends (.error ⟨.strayClosing name, c :: inside⟩)
        | e :: outer =>
          if e.name = name then .goesOn ⟨next, outer⟩
          else .ends (.error ⟨.misnested name e.name, c :: inside⟩)

def result (root t : Text) (s : Scan) : Except Failure EndTag := findEnd root s.opened (t.drop s.offset)

theorem sound_turn (root t : Text) (s : Scan) : (turn root t s).Sound offset t.length (result root t) s := by
  have hleft := Text.upTo_append (toMark_suffix (t.drop s.offset))
  have hresult : findEnd root s.opened (toMark (t.drop s.offset)) = result root t s := findEnd_toMark ..
  unfold turn
  dsimp only
  split
  · next hmark =>
    rw [hmark] at hresult
    split <;> next hopened =>
      rw [Turn.sound_ends, ← hresult, hopened, findEnd]
  · next c inside hmark =>
    rw [hmark] at hresult hleft
    split
    · next f hread => exact (findEnd_endless hread _).symm.trans hresult
    · next token rest hread =>
      have hrest := Token.suffix_of_read hread
      have hparts : t.drop s.offset =
          Text.upTo (t.drop s.offset) (c :: inside) ++ (Text.upTo (c :: inside) rest ++ rest) := by
        rw [Text.upTo_append (hrest.trans (List.suffix_cons c inside)), hleft]
      obtain ⟨hlt, hle, hdrop⟩ := Text.further hparts (Text.upTo_ne_nil c hrest)
      -- the next turn starts where the token ends, so the balance has to agree there
      have hgoesOn {opened : List OpenElement} (h : findEnd root opened rest = findEnd root s.opened (c :: inside)) :
          (Turn.goesOn ⟨s.offset + (Text.upTo (t.drop s.offset) (c :: inside)).length +
            (Text.upTo (c :: inside) rest).length, opened⟩).Sound offset t.length (result root t) s := by
        refine ⟨hlt, hle, ?_⟩
        rw [← hresult, ← h, result, hdrop]
      split
      · exact hgoesOn (findEnd_inert hread _).symm
      · exact hgoesOn (findEnd_opening hread _).symm
      · next name =>
        split
        · next hopened =>
          rw [hopened] at hresult
          split
          · next hname =>
            subst hname
            exact (findEnd_root hread).symm.trans hresult
          · next hname => exact (findEnd_stray hread hname).symm.trans hresult
        · next e outer hopened =>
          split
          · next hname =>
            subst hname
            refine hgoesOn ?_
            rw [hopened]
            exact (findEnd_closing hread e.start outer).symm
          · next hname =>
            rw [hopened] at hresult
            exact (findEnd_misnested hread hname outer).symm.trans hresult

end Scan

end Template

namespace Component

/-- Both loops always get further. Whatever text and offset, a turn of the loop over a component or over a template that
is not the last one moves the offset on, and not beyond the text; no loop takes more turns than the text has characters
and one; and the first ends with the component of the text or with a fault on one of its lines. -/
theorem scans_end (t : Text) :
    Turn.Advances Scan.offset t.length (Scan.turn t) ∧
    Turn.run (Scan.turn t) (t.length + 1) ⟨0, [], []⟩ = some (ofText t) ∧
    (∀ root, Turn.Advances Template.Scan.offset t.length (Template.Scan.turn root t) ∧
      ∀ start, Turn.run (Template.Scan.turn root t) (t.length + 1) ⟨start, []⟩ =
        some (Template.findEnd root [] (t.drop start))) ∧
    ((∃ c, ofText t = .ok c) ∨
      ∃ e, ofText t = .error e ∧ 1 ≤ e.line ∧ e.line ≤ (Document.ofText t).lineCount) := by
  have hscan := Scan.sound_turn t
  refine ⟨Turn.advances_of_sound hscan, ?_, fun root => ?_, ?_⟩
  · rw [← Scan.result_start]
    exact Turn.run_eq_of_sound hscan (Nat.le_add_left ..)
  · have htemplate := Template.Scan.sound_turn root t
    exact ⟨Turn.advances_of_sound htemplate, fun start => Turn.run_eq_of_sound htemplate (Nat.le_add_left ..)⟩
  · cases h : ofText t with
    | ok c => exact .inl ⟨c, rfl⟩
    | error e => exact .inr ⟨e, rfl, line_of_error h⟩

end Component

end ComponentFormat
