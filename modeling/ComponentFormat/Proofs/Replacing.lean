import ComponentFormat.Proofs.Edits
import ComponentFormat.Proofs.Settling

/-! # The engines' edits are revisions

Put into an assembly with terminators of one kind, an edit of the re-indenting engines gives an assembly that revises
it, and the edited region has no further edit.
-/
namespace ComponentFormat

/-- Where a single line stood in front of a terminator, and no blanks are left, a single line stands. -/
theorem Text.Reflowed.not_hasBreak_back {l u : Text} (h : Reflowed (l ++ ['\n']) (u ++ ['\n'])) (hl : ¬l.HasBreak)
    (hu : ∀ c ∈ u.getLast?, isBlank c = false) : ¬u.HasBreak := by
  obtain ⟨r, hr, hblank, hsolid⟩ := exists_trimEnd isBlank l
  generalize trimEnd isBlank l = w at hr hsolid
  subst hr
  rw [List.append_assoc] at h
  have hw : ¬Text.HasBreak w := fun hb => hl (hasBreak_append.2 (.inl hb))
  obtain ⟨w', r', ht, hww, hrr⟩ := h.split (fun c hc _ _ => .inl (hsolid c hc))
  rw [hww.eq_of_not_hasBreak hw] at ht
  have hblank' : Blank r' := hrr.blank (blank_append.2 ⟨hblank, Reindent.blank_lineFeed⟩)
  rcases List.eq_nil_or_concat r' with rfl | ⟨r', c, rfl⟩
  · exact absurd rfl (hrr.ne_nil (by simp))
  rw [List.concat_eq_append, ← List.append_assoc] at ht
  obtain ⟨rfl, -⟩ := List.append_inj' ht rfl
  rcases List.eq_nil_or_concat r' with rfl | ⟨r', d, rfl⟩
  · rwa [List.append_nil]
  · have hd := hu d (by simp)
    rw [hblank' d (by simp)] at hd
    cases hd

namespace Row.Reflows
variable {lead lead' : Text} {row row' : Row} (h : Reflows lead row lead' row')
include h

theorem lead_end : Text.Reflowed (lead ++ ['\n']) (lead' ++ ['\n']) := by
  cases h with
  | last hgap => exact hgap
  | block hgap _ _ => exact hgap.append_right _

theorem block_nth (i : Nat) : (row.nth i).1.Reflows (row'.nth i).1 := by
  have hsame (b : Block) : b.Reflows b := ⟨rfl, rfl, .refl _, .refl _, .refl _⟩
  induction h generalizing i with
  | last => exact hsame _
  | block _ hblock _ ih =>
    cases i with
    | zero => exact hblock
    | succ i => exact ih i

theorem gap_nth {i : Nat} (hi : i + 1 < row.length) : Text.Reflowed (row.nth i).2 (row'.nth i).2 := by
  induction h generalizing i with
  | last => simp at hi
  | block _ _ hmore ih =>
    cases i with
    | zero =>
      cases hmore with
      | last => simp at hi
      | block hgap _ _ => exact hgap
    | succ i => exact ih (by simpa using hi)

theorem gap_end (i : Nat) : Text.Reflowed ((row.nth i).2 ++ ['\n']) ((row'.nth i).2 ++ ['\n']) := by
  induction h generalizing i with
  | last => exact .refl _
  | block _ _ hmore ih =>
    cases i with
    | zero => exact hmore.lead_end
    | succ i => exact ih i

end Row.Reflows

namespace Assembly
variable {a : Assembly} {k : Nat} {content : Text}

/-- A content with as many characters between its blanks can take the place of that of a block. -/
theorem exists_revises (hk : k < a.row.length) (hspelled : ((a.block k).withContent content).Spelled)
    (hbreak : content.HasBreak) (hsolids : content.solids = (a.block k).content.solids) : ∃ a', a.Revises a' k ∧
      a'.block k = (a.block k).withContent content ∧
      a'.text = a.front k ++ ((a.block k).withContent content).source ++ a.behind k := by
  refine ⟨a.withBlock k _ hk hspelled (Block.slot_withContent ..), ⟨?_, rfl, fun i => ?_, fun i => ?_⟩,
    (block_withBlock k).trans (if_pos rfl), text_withBlock⟩
  · exact alters_withBlock fun _ => by simp [Block.withContent, Block.source, hbreak]
  · rw [block_withBlock]
    split
    · next hi => rw [hi]; simp [Block.withContent, Block.source, hsolids]
    · rfl
  · rw [gap_withBlock]

def edit? (a : Assembly) (path : String) (o : Options) (i : Nat) : Option Edit :=
  a.editBy? path Reindent.engines o i

section
variable {path : String} {o : Options}

/-- The second assembly is the first with `new` for the lines of a block, and the block has no further edit. -/
structure Settles (a a' : Assembly) (path : String) (o : Options) (k : Nat) (new : Text) : Prop where
  revises : a.Revises a' k
  around : ∃ head tail, a.Around k head tail ∧ a'.text = head ++ new ++ tail
  solids : new.solids = (a.lines k).solids
  uses : a'.text.Uses (a.document path).terminator
  settled : (a'.document path).terminator = (a.document path).terminator → a'.edit? path o k = none

theorem uses_source {e : Terminator} {b : Block} (h : b.Delimited) :
    b.source.Uses e ↔ (b.opening.Uses e ∧ b.content.Uses e) ∧ b.closing.Uses e := by
  rw [Block.source, Text.uses_append h.seams.2, Text.uses_append h.seams.1]

theorem uses_around {e : Terminator} {b : Block} (h : b.Spelled) (x y : Text) :
    Text.Uses e (x ++ b.source ++ y) ↔ (x.Uses e ∧ b.source.Uses e) ∧ y.Uses e :=
  Text.uses_between ⟨'<', by simpa using h.bracketed.head? [], by decide⟩
    ⟨'>', by simpa using h.bracketed.getLast? [], by decide⟩

/-- An answer for a content leaves an assembly in which the engine has nothing to do there. -/
theorem settles_content (hk : k < a.row.length) (hkind : a.kind k ≠ .markup)
    (huses : a.text.Uses (a.document path).terminator) {edit : Edit} (h : a.edit? path o k = some edit) :
    ∃ a', Settles a a' path o k edit.text := by
  have hsplices := (Region.splices_forKind (a.kind k)).2 hkind
  have hfamily : (Handler.forKind (a.kind k)).family ≠ .markup := by
    cases hc : a.kind k <;> simp_all [Handler.forKind, Handler.script, Handler.style]
  obtain ⟨out, hout, rfl⟩ := exists_answer hk h
  obtain ⟨-, parser, hparser, hrun⟩ := answer?_region hout
  rw [if_pos hsplices] at hrun
  have hb := a.spelled_block hk
  rw [a.text_eq k, uses_around hb, uses_source hb.delimited] at huses
  obtain ⟨⟨hfront, ⟨hopening, hcontent⟩, hclosing⟩, hbehind⟩ := huses
  obtain ⟨hagain, hsolids, hfind⟩ := Reindent.run_spliced hfamily hcontent hrun
  have hnew := rebuilt_content path hsplices out
  have hwrites := Text.uses_withTerminator (a.document path).terminator ('\n' :: out)
  have hbreak := (Text.reflowed_withTerminator (a.document path).terminator ('\n' :: out)).hasBreak_iff.1
    (Text.hasBreak_cons.2 (.inl (by decide)))
  generalize hc : Text.withTerminator (a.document path).terminator.text ('\n' :: out) = content at *
  have hspelled : ((a.block k).withContent content).Spelled := spelled_withContent hk hkind hout (hfind _)
  obtain ⟨a', hrevises, hblock, htext⟩ := exists_revises hk hspelled hbreak hsolids
  have hkind' : a'.kind k = a.kind k := by rw [kind, kind, hrevises.slot]
  refine ⟨a', hrevises, ?_, ?_, ?_, fun hterm => ?_⟩
  · obtain ⟨head, tail, haround⟩ := a.exists_around k
    exact ⟨head, tail, haround, by rw [htext, haround.append, hnew]⟩
  · dsimp only
    rw [hnew]
    simp [lines, Block.source, Block.withContent, hsolids]
  · rw [htext, uses_around hspelled, uses_source hspelled.delimited]
    exact ⟨⟨hfront, ⟨hopening, hwrites⟩, hclosing⟩, hbehind⟩
  · refine edit?_eq_none (by rwa [hrevises.length]) fun again ha => ?_
    obtain ⟨-, parser', hparser', hrun'⟩ := answer?_region ha
    rw [hkind', if_pos hsplices, hblock] at hrun'
    rw [hkind', hblock] at hparser'
    cases hparser.symm.trans hparser'
    rw [rebuilt_content _ (by rwa [hkind']), hterm, hagain again hrun', hc, lines, hblock]
    rfl

theorem exists_reflowed {t : Text} (h : Text.Reflowed ('\n' :: (a.text ++ ['\n'])) ('\n' :: (t ++ ['\n']))) :
    ∃ a' : Assembly, a'.text = t ∧ Row.Reflows ('\n' :: a.lead) a.row ('\n' :: a'.lead) a'.row := by
  have hrow : Text.Reflowed ('\n' :: a.lead ++ (a.row.text ++ ['\n'])) ('\n' :: t ++ ['\n']) := by
    simpa [text] using h
  obtain ⟨lead, row, ht, hr, hspelled⟩ := Row.reflow a.spelled hrow
  obtain ⟨lead, rfl⟩ : ∃ l, lead = '\n' :: l := by
    cases lead with
    | cons c lead => exact ⟨lead, by rw [(List.cons.inj ht).1]⟩
    | nil =>
      cases row with
      | nil => cases ht
      | cons q row =>
        obtain ⟨b, g⟩ := q
        obtain ⟨m, hm⟩ := (List.forall_mem_cons.1 hspelled).1.bracketed
        rw [List.nil_append, Row.text_cons, hm] at ht
        cases ht
  have hlead : '<' ∉ '\n' :: a.lead := by simpa using a.lead_plain
  obtain ⟨hl, hg⟩ := hr.plain hlead a.gaps_plain
  refine ⟨⟨lead, row, fun hm => hl (List.mem_cons_of_mem _ hm), hg, hspelled, fun kind => ?_⟩, ?_, hr⟩
  · rw [Row.length_filter_slot hr.slots]
    exact a.single kind
  · exact (List.cons.inj ht).2.symm

theorem revises_of_reflows {a' : Assembly} (h : Row.Reflows ('\n' :: a.lead) a.row ('\n' :: a'.lead) a'.row) (k : Nat) :
    a.Revises a' k where
  length := by simpa using congrArg List.length h.slots
  slot i := (h.block_nth i).slot
  broken i := (h.block_nth i).source.hasBreak_iff.1
  unbroken i _ := (h.block_nth i).source.hasBreak_iff.2
  gap i hi := (h.gap_nth hi).hasBreak_iff.symm
  lead_solids := by
    have := h.lead_end.solids_eq
    simp only [Text.solids_append, Text.solids_cons] at this
    omega
  block_solids i := (h.block_nth i).source.solids_eq.symm
  gap_solids i := by
    have := (h.gap_end i).solids_eq
    simp only [Text.solids_append] at this
    exact (Nat.add_right_cancel this).symm

/-- Reflowed lines without blanks around them hold a block again, with one line up to it and one line behind it. -/
theorem exists_block {new : Text} (hk : k < a.row.length) (htight : new.Tight)
    (hflow : Text.Reflowed ('\n' :: (a.lines k ++ ['\n'])) ('\n' :: (new ++ ['\n']))) :
    ∃ (u v : Text) (b : Block), b.Spelled ∧ new = u ++ b.source ++ v ∧ ¬u.HasBreak ∧ ¬v.HasBreak ∧
      u.solids = (a.front k).lastLine.solids := by
  have hb := a.spelled_block hk
  have hparts : '\n' :: (a.lines k ++ ['\n']) =
      '\n' :: (a.front k).lastLine ++ ((a.block k).source ++ ((a.behind k).firstLine ++ ['\n'])) := by
    simp [lines]
  rw [hparts] at hflow
  obtain ⟨u, z, hu, hfront, hz⟩ := hflow.split (hb.bracketed.firm_right _ _)
  obtain ⟨s, v, rfl, hs, hback⟩ := hz.split (hb.bracketed.firm_left _)
  obtain ⟨b, hb', rfl, -⟩ := hb.reflow hs
  -- the line feeds around the lines stay where they are
  obtain ⟨u, rfl⟩ : ∃ w, u = '\n' :: w := by
    cases u with
    | nil => exact absurd rfl (hfront.ne_nil (by simp))
    | cons c u => exact ⟨u, by rw [(List.cons.inj hu).1]⟩
  have hu : new ++ ['\n'] = u ++ b.source ++ v := by simpa using hu
  obtain ⟨v, rfl⟩ : ∃ w, v = w ++ ['\n'] := by
    rcases List.eq_nil_or_concat v with rfl | ⟨v, c, rfl⟩
    · exact absurd rfl (hback.ne_nil (by simp))
    · rw [List.concat_eq_append, ← List.append_assoc] at hu
      exact ⟨v, by rw [(List.append_inj' hu rfl).2, List.concat_eq_append]⟩
  rw [← List.append_assoc] at hu
  obtain rfl := List.append_cancel_right hu
  obtain ⟨⟨c, hc, hcb⟩, d, hd, hdb⟩ := htight
  refine ⟨u, v, b, hb', rfl, ?_, ?_, ?_⟩
  · refine hfront.not_hasBreak_front (Text.not_hasBreak_lastLine _) fun e he => ?_
    rw [List.append_assoc, List.head?_append, Option.mem_def.1 he] at hc
    cases hc
    exact hcb
  · refine hback.not_hasBreak_back (Text.not_hasBreak_firstLine _) fun e he => ?_
    rw [List.getLast?_append, Option.mem_def.1 he] at hd
    cases hd
    exact hdb
  · have := hfront.solids_eq
    rw [Text.solids_cons, Text.solids_cons] at this
    omega

theorem lines_eq {a' : Assembly} {head tail new : Text} (hk : k < a.row.length) (h : a.Revises a' k)
    (haround : a.Around k head tail) (ht : a'.text = head ++ new ++ tail) (htight : new.Tight)
    (hflow : Text.Reflowed ('\n' :: (a.lines k ++ ['\n'])) ('\n' :: (new ++ ['\n']))) : a'.lines k = new := by
  obtain ⟨u, v, b, hb, rfl, hfirst, hlast, hsolids⟩ := exists_block hk htight hflow
  have hfront : Text.solids (head ++ u) = (a.front k).solids := by
    rw [haround.front, Text.solids_append, Text.solids_append, hsolids]
  have htext : a'.text = head ++ u ++ b.source ++ (v ++ tail) := by
    rw [ht]
    simp
  obtain ⟨hx, hblock, hy⟩ := h.block_unique hk hb htext hfront
  rw [lines, hx, hblock, hy, Text.lastLine_append hfirst haround.head_ends,
    Text.firstLine_append hlast haround.tail_starts]

/-- An answer for whole lines leaves an assembly in which the engine has nothing to do there. -/
theorem settles_lines (hk : k < a.row.length) (hkind : a.kind k = .markup)
    (huses : a.text.Uses (a.document path).terminator) {edit : Edit} (h : a.edit? path o k = some edit) :
    ∃ a', Settles a a' path o k edit.text := by
  have hsplices : (Handler.forKind (a.kind k)).splices = false := by rw [hkind]; rfl
  have hfamily : (Handler.forKind (a.kind k)).family = .markup := by rw [hkind]; rfl
  obtain ⟨out, hout, rfl⟩ := exists_answer hk h
  obtain ⟨-, parser, -, hrun⟩ := answer?_region hout
  rw [hsplices, if_neg (by decide), hfamily, full_region path hk] at hrun
  obtain ⟨head, tail, haround⟩ := a.exists_around k
  obtain ⟨hfirst, hlast⟩ := a.lines_ends hk
  rw [haround.text, Text.uses_between hfirst hlast] at huses
  obtain ⟨⟨hhead, hlines⟩, htail⟩ := huses
  have hsome : ¬(a.lines k).Blank := by
    obtain ⟨m, hm⟩ := (a.spelled_block hk).bracketed
    intro hblank
    have := hblank '<' (by simp [lines, hm])
    cases this
  obtain ⟨htight, huses, hflow, hagain⟩ := Reindent.run_lines hlines hsome hrun
  dsimp only
  rw [rebuilt_lines path hsplices]
  generalize hnew : Text.trimEnd (fun c => c == '\r' || c == '\n')
    (Text.withTerminator (a.document path).terminator.text out) = new at *
  obtain ⟨a', ht, hr⟩ := exists_reflowed (t := head ++ new ++ tail)
    (haround.text ▸ hflow.between haround.head_ends haround.tail_starts)
  have hrevises := revises_of_reflows hr k
  have hk' : k < a'.row.length := hrevises.length ▸ hk
  have hkind' : a'.kind k = a.kind k := by rw [kind, kind, hrevises.slot]
  refine ⟨a', hrevises, ⟨head, tail, haround, ht⟩, ?_, ?_, fun hterm => ?_⟩
  · have := hflow.solids_eq
    simp only [Text.solids_cons, Text.solids_append] at this
    omega
  · obtain ⟨⟨c, hc, hcb⟩, d, hd, hdb⟩ := htight
    rw [ht, Text.uses_between ⟨c, hc, Text.isBreak_of_solid hcb⟩ ⟨d, hd, Text.isBreak_of_solid hdb⟩]
    exact ⟨⟨hhead, huses⟩, htail⟩
  · have hlines' := lines_eq hk hrevises haround ht htight hflow
    refine edit?_eq_none hk' fun again ha => ?_
    obtain ⟨-, parser', -, hrun'⟩ := answer?_region ha
    rw [hkind', hsplices, if_neg (by decide), hfamily, full_region path hk', hlines'] at hrun'
    rw [rebuilt_lines path (by rw [hkind', hsplices]), hterm, hagain again hrun', hnew, hlines']

end

end Assembly

end ComponentFormat
