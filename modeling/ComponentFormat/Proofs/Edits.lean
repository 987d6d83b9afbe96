import ComponentFormat.Proofs.Exchange
import ComponentFormat.Proofs.Passes
import ComponentFormat.Proofs.Terminators

/-! # The edits of an assembly

What an engine answers is put between the tags of its block, or for markup in the place of the lines, with the
terminator of the document. Where that is not what stands there already, it is the edit of the block.
-/
namespace ComponentFormat

namespace Assembly
variable {a : Assembly} {k : Nat}

def editBy? (a : Assembly) (path : String) (e : Engines) (o : Options) (i : Nat) : Option Edit :=
  ((a.region path i).attempt e o).1.edit?

def rebuilt (a : Assembly) (path : String) (i : Nat) (out : Text) : Text :=
  (a.region path i).rebuilt ((a.front i).lastLine ++ (a.block i).opening)
    ((a.block i).closing ++ (a.behind i).firstLine) out

section
variable {path : String} {e : Engines} {o : Options}

theorem frames_region (path : String) (hk : k < a.row.length) :
    (a.region path k).Frames ((a.front k).lastLine ++ (a.block k).opening)
      ((a.block k).closing ++ (a.behind k).firstLine) :=
  Region.ofBlock_frames (a.kind k) (d := a.document path) (a.sits hk)

theorem full_region (path : String) (hk : k < a.row.length) : (a.region path k).full = a.lines k :=
  Region.ofBlock_full (a.kind k) (d := a.document path) (a.sits hk)

theorem edit?_eq (hk : k < a.row.length) : a.editBy? path e o k =
    match (a.region path k).answer? e o with
    | some out => if a.rebuilt path k out = a.lines k then none else some ⟨a.span k, a.rebuilt path k out⟩
    | none => none := by
  rw [editBy?, Region.edit?_attempt (frames_region path hk) (Terminator.backslash_not_mem _), ← full_region path hk]
  rfl

theorem answer?_region {out : Text} (h : (a.region path k).answer? e o = some out) :
    Text.isAllBlank (a.block k).content = false ∧ ∃ parser,
      (Handler.forKind (a.kind k)).selectParser (a.block k).lang = some parser ∧
      e.run o (Call.to (Handler.forKind (a.kind k)).family parser
        (if (Handler.forKind (a.kind k)).splices then (a.block k).content else (a.region path k).full)) =
          .text out :=
  Region.exists_run_of_answer? h

/-- A block with an answer for its content can get another content, if that holds no closing tag of the block. -/
theorem spelled_withContent (hk : k < a.row.length) (hkind : a.kind k ≠ .markup) {out : Text}
    (hout : (a.region path k).answer? e o = some out) {content : Text}
    (hfree : (∀ c ∈ (a.block k).name, isPlainNameChar c = true) →
      ClosingTag.Free (a.block k).name (a.block k).content → ClosingTag.Free (a.block k).name content) :
    ((a.block k).withContent content).Spelled := by
  refine (a.spelled_block hk).withContent (fun hslot => hkind ?_) (fun hn => ?_) hfree
  · rw [kind, hslot]
    rfl
  · have := (answer?_region hout).1
    simp [hn, Text.isAllBlank] at this

theorem exists_answer (hk : k < a.row.length) {edit : Edit} (h : a.editBy? path e o k = some edit) :
    ∃ out, (a.region path k).answer? e o = some out ∧ edit = ⟨a.span k, a.rebuilt path k out⟩ := by
  obtain ⟨out, hout, -, rfl⟩ :=
    Region.exists_answer_of_edit? (frames_region path hk) (Terminator.backslash_not_mem _) h
  exact ⟨out, hout, rfl⟩

theorem edit?_eq_none (hk : k < a.row.length)
    (h : ∀ out, (a.region path k).answer? e o = some out → a.rebuilt path k out = a.lines k) :
    a.editBy? path e o k = none := by
  rw [edit?_eq hk]
  cases hout : (a.region path k).answer? e o with
  | none => rfl
  | some out => exact if_pos (h out hout)

theorem span_of_edit? (hk : k < a.row.length) {edit : Edit} (h : a.editBy? path e o k = some edit) :
    edit.span = a.span k := by
  obtain ⟨out, -, rfl⟩ := exists_answer hk h
  rfl

/-- An answer for the content stands behind a terminator between the tags of the block. -/
theorem rebuilt_content (path : String) (hsplices : (Handler.forKind (a.kind k)).splices = true) (out : Text) :
    a.rebuilt path k out = (a.front k).lastLine ++
      ((a.block k).withContent (Text.withTerminator (a.document path).terminator.text ('\n' :: out))).source ++
      (a.behind k).firstLine := by
  have hterm : (a.region path k).terminator = (a.document path).terminator.text := rfl
  rw [rebuilt, Region.rebuilt_content ((Region.splices_forKind _).1 hsplices), hterm]
  simp [Block.source, Block.withContent]

theorem rebuilt_lines (path : String) (hsplices : (Handler.forKind (a.kind k)).splices = false) (out : Text) :
    a.rebuilt path k out = Text.trimEnd (fun c => c == '\r' || c == '\n')
      (Text.withTerminator (a.document path).terminator.text out) :=
  if_neg (Bool.eq_false_iff.1 hsplices)

end

theorem editsBy_eq (a : Assembly) (path : String) (e : Region → Engines) (o : Options) :
    (Pass.ofDocumentBy e o (a.document path)).edits =
      a.kept.filterMap fun i => a.editBy? path (e (a.region path i)) o i := by
  rw [Pass.edits_ofDocumentBy, regions_eq, List.filterMap_map]
  rfl

end Assembly

end ComponentFormat
