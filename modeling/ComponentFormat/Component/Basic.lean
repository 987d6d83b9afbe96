import ComponentFormat.Component.Block
import ComponentFormat.Component.Locator

/-! # Components

A component text is a row of blocks with gaps between them. `Outline.ofText` reads the row as far as it goes;
`Component.ofText` puts the blocks at their offsets and holds template, script and script setup to one each.
-/
namespace ComponentFormat

/-- A part of a text at top level. Comments, declarations and single characters are gaps. -/
inductive Piece where
  | gap (source : Text)
  | block (b : Block)
  deriving DecidableEq, Repr

namespace Piece

def source : Piece → Text
  | gap s => s
  | block b => b.source

/-- A gap of `t` that ends where the first `mark` behind `inside` ends. -/
def gapUntil (mark : String) (fault : Fault) (t inside : Text) : Except Failure (Piece × Text) :=
  match Text.cut? mark.toList inside with
  | some (_, rest) => .ok (.gap (Text.upTo t rest), rest)
  | none => .error ⟨fault, t⟩

/-- The name to report for a closing tag that stands alone. -/
def strayName (t : Text) : Text :=
  match ClosingTag.read? t with
  | some (name, _) => name
  | none => ['?']

/-- The piece that an opening angle bracket starts, `t` being the text behind the bracket. -/
def readTag (t : Text) : Except Failure (Piece × Text) :=
  match Text.after? "!--".toList t with
  | some inside => gapUntil "-->" .unterminatedComment ('<' :: t) inside
  | none =>
    match t with
    | '!' :: _ | '?' :: _ => gapUntil ">" .unterminatedDeclaration ('<' :: t) t
    | '/' :: _ => .error ⟨.strayClosing (strayName ('<' :: t)), '<' :: t⟩
    | _ =>
      match OpeningTag.read? ('<' :: t) with
      | none => .ok (.gap ['<'], t)
      | some (tag, inside) => (Block.read tag ('<' :: t) inside).map fun p => (.block p.1, p.2)

/-- The piece at the front of a text that starts with `c`, and the text after it. -/
def read (c : Char) (t : Text) : Except Failure (Piece × Text) :=
  if c = '<' then readTag t else .ok (.gap [c], t)

theorem gapUntil_ok {mark : String} {fault : Fault} {t inside rest : Text} {p : Piece}
    (hin : inside <:+ t) (h : gapUntil mark fault t inside = .ok (p, rest)) :
    t = p.source ++ rest ∧ rest <:+ inside := by
  unfold gapUntil at h
  split at h
  · next hc =>
    cases h
    have hs := Token.suffix_of_cut? hc
    exact ⟨(Text.upTo_append (hs.trans hin)).symm, hs⟩
  · cases h

/-- A piece is read off the text and takes at least its first character. -/
theorem append_of_read {c : Char} {t rest : Text} {p : Piece} (h : read c t = .ok (p, rest)) :
    c :: t = p.source ++ rest ∧ rest <:+ t := by
  unfold read at h
  split at h
  · next hlt =>
    subst hlt
    unfold readTag at h
    split at h
    · next inside hi =>
      have hi : inside <:+ t := ⟨_, (Text.after?_eq_some_iff.1 hi).symm⟩
      obtain ⟨h1, h2⟩ := gapUntil_ok (hi.trans (List.suffix_cons ..)) h
      exact ⟨h1, h2.trans hi⟩
    · split at h
      · exact gapUntil_ok (List.suffix_cons ..) h
      · exact gapUntil_ok (List.suffix_cons ..) h
      · cases h
      · split at h
        · cases h
          exact ⟨rfl, List.suffix_refl _⟩
        · next tag inside hr =>
          have hin := OpeningTag.suffix_of_read? hr
          cases hb : Block.read tag ('<' :: t) inside with
          | error f => rw [hb] at h; cases h
          | ok q =>
            rw [hb] at h
            cases h
            obtain ⟨h1, h2⟩ := Block.append_of_read (hin.trans (List.suffix_cons ..)) hb
            exact ⟨h1, h2.trans hin⟩
  · cases h
    exact ⟨rfl, List.suffix_refl _⟩

end Piece

/-- The pieces of a text up to its end or to the first fault. -/
structure Outline where
  pieces : List Piece
  failure? : Option Failure
  deriving DecidableEq, Repr

namespace Outline

def push (p : Piece) (o : Outline) : Outline :=
  { o with pieces := p :: o.pieces }

def ofText (t : Text) : Outline :=
  match t with
  | [] => ⟨[], none⟩
  | c :: t =>
    match _h : Piece.read c t with
    | .ok (p, rest) => (ofText rest).push p
    | .error f => ⟨[], some f⟩
termination_by t.length
decreasing_by
  have := (Piece.append_of_read _h).2.length_le
  simp only [List.length_cons]
  omega

end Outline

/-- A block and the offset of its opening tag. -/
structure Placed where
  start : Nat
  block : Block
  deriving DecidableEq, Repr

namespace Placed

def contentStart (p : Placed) : Nat := p.start + p.block.opening.length

def contentEnd (p : Placed) : Nat := p.contentStart + p.block.content.length

def stop (p : Placed) : Nat := p.contentEnd + p.block.closing.length

/-- Where the content is. -/
def loc (l : Locator) (p : Placed) : SourceLocation :=
  ⟨l.position p.contentStart, l.position p.contentEnd, p.block.content⟩

/-- Where the block is, from its opening tag to the end of its closing tag. -/
def tagLoc (l : Locator) (p : Placed) : SourceLocation :=
  ⟨l.position p.start, l.position p.stop, p.block.source⟩

/-- The blocks of a row of pieces that starts at `start`. -/
def ofPieces (start : Nat) : List Piece → List Placed
  | [] => []
  | .gap s :: more => ofPieces (start + s.length) more
  | .block b :: more => ⟨start, b⟩ :: ofPieces (start + b.length) more

/-- The first block whose place is already taken. -/
def firstRepeat? (taken : List Singleton) : List Placed → Option (Placed × Singleton)
  | [] => none
  | p :: more =>
    match p.block.slot with
    | .single kind =>
      if taken.contains kind then some (p, kind) else firstRepeat? (kind :: taken) more
    | _ => firstRepeat? taken more

end Placed

/-- The blocks of a component in the order of its text. -/
structure Component where
  blocks : List Placed
  deriving DecidableEq, Repr

namespace Component

def inSlot (c : Component) (slot : Slot) : List Placed :=
  c.blocks.filter (·.block.slot = slot)

def single? (c : Component) (kind : Singleton) : Option Placed :=
  (c.inSlot (.single kind)).head?

def styles (c : Component) : List Placed := c.inSlot .style

def customBlocks (c : Component) : List Placed := c.inSlot .custom

/-- Read a component. Of two faults the one that comes first in the text is reported; a repeated block
counts at its end. -/
def ofText (t : Text) : Except ParseError Component :=
  let locator := Locator.ofText t
  let outline := Outline.ofText t
  let blocks := Placed.ofPieces 0 outline.pieces
  match Placed.firstRepeat? [] blocks with
  | some (p, kind) => .error ⟨.repeated kind, locator.line p.start⟩
  | none =>
    match outline.failure? with
    | some f => .error ⟨f.fault, locator.line (t.length - f.rest.length)⟩
    | none => .ok ⟨blocks⟩

end Component

end ComponentFormat
