import ComponentFormat.Proofs.BareLines
import ComponentFormat.Proofs.Edits
import ComponentFormat.Proofs.Rewritten

/-! # What a pass keeps

When the markup engine changes nothing and no other engine writes a closing tag of the block that it formats, a pass
leaves an assembly with the same blocks, of which the same become regions. A block without an edit stays as it is, a
script or style with an edit gets the engine's answer for its content, and a template with an edit gets the terminator
of the document for all of its own. Main statement: `Assembly.structure_kept`.
-/
namespace ComponentFormat

theorem ClosingTag.Free.cons {c : Char} {name t : Text} (h : Free name t) (hc : c ≠ '<') : Free name (c :: t) := by
  rintro a u b hu he
  cases a with
  | nil =>
    obtain ⟨w, gap, -, -, rfl⟩ := hu
    exact hc (List.cons.inj he).1
  | cons d a => exact h a u b hu (List.cons.inj he).2

namespace Region

/-- The engine leaves markup as it is, and its answer for another block holds no closing tag of the block. -/
structure Harmless (r : Region) (name : Text) (e : Engines) (o : Options) : Prop where
  markup : r.kind = .markup → ∀ out, r.answer? e o = some out → out = r.full
  free : r.kind ≠ .markup → ∀ out, r.answer? e o = some out → ∀ a u b, ClosingTag.Closes name u → out ≠ a ++ u ++ b

/-- What an engine makes of the block `b` of a region. -/
inductive Makes (r : Region) (e : Engines) (o : Options) (eol : Terminator) (b : Block) : Block → Prop
  | same (h : (r.attempt e o).1.edit? = none) : Makes r e o eol b b
  | content {out : Text} (hkind : r.kind ≠ .markup) (hedit : (r.attempt e o).1.edit? ≠ none)
      (hout : r.answer? e o = some out) :
      Makes r e o eol b (b.withContent (eol.text ++ Text.withTerminator eol.text out))
  | terminators (hkind : r.kind = .markup) (hedit : (r.attempt e o).1.edit? ≠ none) :
      Makes r e o eol b (b.withTerminator eol)

theorem Makes.tags {r : Region} {e : Engines} {o : Options} {eol : Terminator} {b b' : Block} (h : r.Makes e o eol b b')
    (hkind : r.kind ≠ .markup) : b'.opening = b.opening ∧ b'.closing = b.closing := by
  cases h with
  | same => exact ⟨rfl, rfl⟩
  | content => exact ⟨rfl, rfl⟩
  | terminators h => exact absurd h hkind

end Region

namespace Assembly
variable {a : Assembly} {k : Nat}

theorem withTerminator_lines (hk : k < a.row.length) (e : Terminator) : Text.withTerminator e.text (a.lines k) =
    (a.front k).lastLine ++ ((a.block k).withTerminator e).source ++ (a.behind k).firstLine := by
  have hb := (a.spelled_block hk).bracketed
  have hfront : Text.Seam (a.front k).lastLine (a.block k).source :=
    Text.seam_of_head (by simpa using hb.head? []) (by decide)
  have hbehind : Text.Seam ((a.front k).lastLine ++ (a.block k).source) (a.behind k).firstLine :=
    Text.seam_of_getLast (hb.getLast? _) (by decide)
  rw [lines, Text.withTerminator_append hbehind, Text.withTerminator_append hfront,
    Text.withTerminator_of_not_hasBreak (Text.not_hasBreak_lastLine _),
    Text.withTerminator_of_not_hasBreak (Text.not_hasBreak_firstLine _),
    Block.source_withTerminator (a.spelled_block hk).delimited]

theorem trimEnd_lines (hk : k < a.row.length) (e : Terminator) :
    Text.trimEnd (fun c => c == '\r' || c == '\n') (Text.withTerminator e.text (a.lines k)) =
      Text.withTerminator e.text (a.lines k) := by
  obtain ⟨-, c, hc, hbreak⟩ := a.lines_ends hk
  obtain ⟨u, hu⟩ := List.getLast?_eq_some_iff.1 hc
  rw [hu, Text.withTerminator_concat hbreak]
  refine (congrArg _ (List.append_nil _).symm).trans (Text.trimEnd_append (by simp) ?_)
  rw [List.getLast?_concat]
  rintro _ ⟨⟩
  simpa [isBreak, Bool.or_comm] using hbreak

section
variable {path : String} {e : Engines} {o : Options}

theorem exchanges_withTerminator (path : String) (hk : k < a.row.length) (hkind : a.kind k = .markup) :
    a.Exchanges k ((a.block k).withTerminator (a.document path).terminator)
      (some ⟨a.span k, a.rebuilt path k (a.lines k)⟩) := by
  have hsplices : (Handler.forKind (a.kind k)).splices = false := by rw [hkind]; rfl
  have hflow := Block.reflows_withTerminator (a.document path).terminator (a.block k)
  refine ⟨(a.spelled_block hk).withTerminator _, hflow.slot, hflow.source.hasBreak_iff.1, ?_, by simp⟩
  rintro _ ⟨⟩
  refine ⟨rfl, ?_⟩
  rw [← withTerminator_lines hk, ← trimEnd_lines hk]
  exact rebuilt_lines path hsplices _

theorem exchanges_withContent (hk : k < a.row.length) (hkind : a.kind k ≠ .markup) {out : Text}
    (hout : (a.region path k).answer? e o = some out)
    (hfree : ClosingTag.Free (a.block k).name out) :
    a.Exchanges k ((a.block k).withContent ((a.document path).terminator.text ++
      Text.withTerminator (a.document path).terminator.text out)) (some ⟨a.span k, a.rebuilt path k out⟩) := by
  have hsplices := (Region.splices_forKind (a.kind k)).2 hkind
  have hnew := rebuilt_content path hsplices out
  have hflow := Text.reflowed_withTerminator (a.document path).terminator ('\n' :: out)
  have hspelled := spelled_withContent hk hkind hout fun hname _ =>
    (hfree.cons (by decide)).reflow hname hflow
  rw [Text.withTerminator_cons_feed] at hnew hspelled
  refine ⟨hspelled, rfl, fun _ => ?_, ?_, by simp⟩
  · simp [Block.withContent, Block.source, Terminator.hasBreak_text]
  · rintro _ ⟨⟩
    exact ⟨rfl, hnew⟩

theorem exists_exchanges (hk : k < a.row.length) (h : (a.region path k).Harmless (a.block k).name e o) :
    ∃ b, a.Exchanges k b (a.editBy? path e o k) ∧
      (a.region path k).Makes e o (a.document path).terminator (a.block k) b := by
  cases hedit : a.editBy? path e o k with
  | none => exact ⟨a.block k, ⟨a.spelled_block hk, rfl, id, by simp, fun _ => rfl⟩, .same hedit⟩
  | some edit =>
    obtain ⟨out, hout, rfl⟩ := exists_answer hk hedit
    have hsome : ((a.region path k).attempt e o).1.edit? ≠ none := by
      rw [← editBy?, hedit]
      simp
    by_cases hkind : a.kind k = .markup
    · have hlines : out = a.lines k := (h.markup hkind out hout).trans (full_region path hk)
      exact ⟨_, hlines ▸ exchanges_withTerminator path hk hkind, .terminators hkind hsome⟩
    · exact ⟨_, exchanges_withContent hk hkind hout (h.free hkind out hout), .content hkind hsome hout⟩

theorem lang_of_makes (hk : k < a.row.length) {eol : Terminator} {b : Block}
    (h : (a.region path k).Makes e o eol (a.block k) b) : b.lang = (a.block k).lang := by
  cases h with
  | same => rfl
  | content => rfl
  | terminators hkind hedit =>
    obtain ⟨edit, hedit⟩ := Option.ne_none_iff_exists'.1 hedit
    obtain ⟨out, hout, -⟩ := exists_answer hk hedit
    obtain ⟨-, parser, hparser, -⟩ := answer?_region hout
    have hkind : a.kind k = .markup := hkind
    rw [hkind] at hparser
    exact Block.lang_withTerminator hparser eol

/-- What an edited block is compared with is the same after the edits, if the terminator is. -/
theorem rebuilt_eq {a' : Assembly} (hkind : a'.kind k = a.kind k)
    (hterm : (a'.document path).terminator = (a.document path).terminator)
    (hbeside : (a'.front k).lastLine = (a.front k).lastLine ∧ (a'.behind k).firstLine = (a.behind k).firstLine)
    (htags : a.kind k ≠ .markup →
      (a'.block k).opening = (a.block k).opening ∧ (a'.block k).closing = (a.block k).closing) (out : Text) :
    a'.rebuilt path k out = a.rebuilt path k out := by
  by_cases h : a.kind k = .markup
  · have hsplices : (Handler.forKind (a.kind k)).splices = false := by rw [h]; rfl
    rw [rebuilt_lines path hsplices, rebuilt_lines path (hkind ▸ hsplices), hterm]
  · have hsplices := (Region.splices_forKind (a.kind k)).2 h
    rw [rebuilt_content path hsplices, rebuilt_content path (hkind ▸ hsplices), hterm, hbeside.1, hbeside.2]
    simp only [Block.withContent, Block.source, htags h]

/-- An edited block that has been exchanged has no further edit for the same answer. -/
theorem exists_unchanged {a' : Assembly} {c : Nat → Block} (ha : a.Exchanged a' c a.kept) (hi : k ∈ a.kept)
    (hc : a.Exchanges k (c k) (a.editBy? path e o k))
    (hmakes : (a.region path k).Makes e o (a.document path).terminator (a.block k) (c k))
    (hterm : (a'.document path).terminator = (a.document path).terminator)
    (hedit : ((a.region path k).attempt e o).1.edit? ≠ none) {out : Text}
    (hout : (a.region path k).answer? e o = some out) :
    ∃ outcome, Outcome.ofFormatted (a'.region path k) (some out) (Handler.forKind (a'.region path k).kind).splices =
      .ok outcome ∧ outcome.status = .unchanged := by
  have hk := lt_of_mem_kept hi
  have hk' : k < a'.row.length := ha.length ▸ hk
  have hblock := ha.block k hi
  have hkind : a'.kind k = a.kind k := by rw [kind, kind, hblock, hc.slot]
  obtain ⟨edit, hedit⟩ := Option.ne_none_iff_exists'.1 hedit
  obtain ⟨out', hout', rfl⟩ := exists_answer hk hedit
  cases hout.symm.trans hout'
  obtain ⟨-, -, -, hne⟩ := Region.answer?_eq_some_iff.1 hout
  obtain ⟨d, t, rfl⟩ := List.exists_cons_of_ne_nil hne
  have hnew : a.rebuilt path k (d :: t) = a'.lines k := by
    rw [lines, hblock, (ha.beside k hi).1, (ha.beside k hi).2]
    exact (hc.put _ hedit).2
  have hsame : a'.rebuilt path k (d :: t) = (a'.region path k).full := by
    rw [full_region path hk', ← hnew]
    exact rebuilt_eq hkind hterm (ha.beside k hi) (hblock ▸ hmakes.tags) _
  rw [rebuilt] at hsame
  refine ⟨_, Region.ofFormatted_eq (frames_region path hk') (Terminator.backslash_not_mem _) d t, ?_⟩
  rw [if_pos hsame]

end

/-- The assembly `a'` has the blocks of `a` after a pass, and the same ones become regions. -/
structure Keeps (a a' : Assembly) (path : String) (e : Region → Engines) (o : Options) : Prop where
  length : a'.row.length = a.row.length
  block : ∀ i ∉ a.kept, a'.block i = a.block i
  made : ∀ i ∈ a.kept, (a.region path i).Makes (e (a.region path i)) o (a.document path).terminator (a.block i)
    (a'.block i)
  regions : (Extraction.ofDocument (a'.document path)).regions = a.kept.map (a'.region path)
  kind : ∀ i ∈ a.kept, (a'.region path i).kind = (a.region path i).kind
  lang : ∀ i ∈ a.kept, (a'.region path i).lang = (a.region path i).lang
  /-- Where there was an edit, its answer changes nothing any more, if the terminator is the same. -/
  unchanged : (a'.document path).terminator = (a.document path).terminator →
    ∀ i ∈ a.kept, ((a.region path i).attempt (e (a.region path i)) o).1.edit? ≠ none →
      ∀ out, (a.region path i).answer? (e (a.region path i)) o = some out →
        ∃ outcome, Outcome.ofFormatted (a'.region path i) (some out)
          (Handler.forKind (a'.region path i).kind).splices = .ok outcome ∧ outcome.status = .unchanged

/-- When no engine does harm, the edits of a pass are applied and leave a component in which the blocks are what the
engines make of them. -/
theorem structure_kept (a : Assembly) (path : String) (e : Region → Engines) (o : Options)
    (h : ∀ i ∈ a.kept, (a.region path i).Harmless (a.block i).name (e (a.region path i)) o) :
    Component.ofText a.text = .ok ⟨a.placed⟩ ∧
    (Extraction.ofDocument (a.document path)).regions = a.kept.map (a.region path) ∧
    ∃ a' : Assembly, (a.document path).applyEdits (Pass.ofDocumentBy e o (a.document path)).edits = .ok a'.text ∧
      Component.ofText a'.text = .ok ⟨a'.placed⟩ ∧ a.Keeps a' path e o := by
  have hblock : ∀ i, ∃ b, i ∈ a.kept → a.Exchanges i b (a.editBy? path (e (a.region path i)) o i) ∧
      (a.region path i).Makes (e (a.region path i)) o (a.document path).terminator (a.block i) b := by
    intro i
    by_cases hi : i ∈ a.kept
    · obtain ⟨b, hb⟩ := exists_exchanges (lt_of_mem_kept hi) (h i hi)
      exact ⟨b, fun _ => hb⟩
    · exact ⟨a.block i, fun hi' => absurd hi' hi⟩
  obtain ⟨c, hc⟩ := Classical.skolem.1 hblock
  obtain ⟨a', ht, ha⟩ := exists_exchanged path (List.append_nil a.kept).symm fun i hi => (hc i hi).1
  have hedits := editsBy_eq a path e o
  have happly := Document.applyEdits_eq (d := a.document path) (Pass.pairwise_edits e o (a.document path))
  rw [hedits, ht, ← hedits] at happly
  refine ⟨a.ofText_text, a.regions_eq path, a', happly, a'.ofText_text, ?_⟩
  have hregions := a'.regions_eq path
  rw [ha.kept] at hregions
  refine ⟨ha.length, ha.block_of_not_mem, fun i hi => ?_, hregions, fun i hi => ?_, fun i hi => ?_,
    fun hterm i hi hedit out hout => ?_⟩
  · rw [ha.block i hi]
    exact (hc i hi).2
  · show a'.kind i = a.kind i
    rw [kind, kind, ha.block i hi, (hc i hi).1.slot]
  · show (a'.block i).lang = (a.block i).lang
    rw [ha.block i hi, lang_of_makes (lt_of_mem_kept hi) (hc i hi).2]
  · exact exists_unchanged ha hi (hc i hi).1 (hc i hi).2 hterm hedit hout

def mixedTerminators : Assembly where
  lead := ['\n']
  row := [(⟨"template".toList, Attributes.ofList [⟨['a'], some "x\r\ny".toList⟩], "<template a=\"x\r\ny\">".toList,
    "\np\n".toList, "</template>".toList⟩, ['\n']),
    (⟨"script".toList, Attributes.ofList [], "<script>".toList, ['a'], "</script>".toList⟩, ['\n'])]
  lead_plain := by simp
  gaps_plain := by simp
  spelled := by
    have htemplate : Text.IsPlainName "template".toList :=
      ⟨⟨'t', "emplate".toList, rfl, by decide⟩, List.all_eq_true.1 (by decide)⟩
    have hscript : Text.IsPlainName "script".toList :=
      ⟨⟨'s', "cript".toList, rfl, by decide⟩, List.all_eq_true.1 (by decide)⟩
    have hvalue : Attribute.Spelled ['>'] ⟨['a'], some "x\r\ny".toList⟩
        ([' '] ++ ['a'] ++ [] ++ '=' :: [] ++ '"' :: "x\r\ny".toList ++ ['"']) :=
      .quoted (by decide) (by decide) ⟨by decide, List.all_eq_true.1 (by decide)⟩ Text.blank_nil Text.blank_nil
        (.inl rfl) (by decide)
    have hopening : OpeningTag.Spelled ⟨"template".toList, " a=\"x\r\ny\"".toList, false⟩
        [⟨['a'], some "x\r\ny".toList⟩] "<template a=\"x\r\ny\">".toList :=
      .mk htemplate Text.blank_nil (.cons hvalue .nil)
    have hopening' : OpeningTag.Spelled ⟨"script".toList, [], false⟩ [] "<script>".toList :=
      .mk hscript Text.blank_nil .nil
    have hcontent : Template.Nested "\np\n".toList := .plain fun c hc => by
      have := List.all_eq_true.1 (by decide : "\np\n".toList.all (fun c => c != '<' && c != '{') = true) c hc
      simpa using this
    refine List.forall_mem_cons.2 ⟨?_, List.forall_mem_singleton.2 ?_⟩
    · exact .html hopening rfl (by decide) hcontent (.mk htemplate Text.blank_nil) rfl
    · exact .raw hopening' rfl (by decide) (by decide) (.mk hscript Text.blank_nil) rfl
  single kind := by cases kind <;> decide

/-- Engines of which one leaves markup as it is and one has the same answer for every script. -/
def fixedEngines : Engines := ⟨fun t _ => .text t, fun _ _ _ => .text "b\r\n".toList, fun _ _ _ => .nothing⟩

theorem harmless_fixedEngines (a : Assembly) (path : String) (i : Nat) (name : Text) (o : Options) :
    (a.region path i).Harmless name fixedEngines o := by
  refine ⟨fun hkind out hout => ?_, fun hkind out hout x u y hu he => ?_⟩
  · obtain ⟨-, parser, -, hrun⟩ := answer?_region hout
    have hkind : a.kind i = .markup := hkind
    rw [hkind] at hrun
    exact (Reply.text.inj hrun).symm
  · obtain ⟨-, parser, -, hrun⟩ := answer?_region hout
    have hanswer : out = "b\r\n".toList := by
      cases hk : a.kind i with
      | markup => exact absurd hk hkind
      | style =>
        rw [hk] at hrun
        cases hrun
      | _ =>
        rw [hk] at hrun
        exact (Reply.text.inj hrun).symm
    obtain ⟨w, gap, -, -, rfl⟩ := hu
    have hbracket : '<' ∈ out := by simp [he]
    rw [hanswer] at hbracket
    exact absurd hbracket (by decide)

theorem structure_kept_mixedTerminators :
    mixedTerminators.kept = [0, 1] ∧
    (∀ i ∈ mixedTerminators.kept,
      (mixedTerminators.region "a" i).Harmless (mixedTerminators.block i).name fixedEngines .default) ∧
    ∃ a' : Assembly, (mixedTerminators.document "a").applyEdits
        (Pass.ofDocumentBy (fun _ => fixedEngines) .default (mixedTerminators.document "a")).edits = .ok a'.text ∧
      Component.ofText a'.text = .ok ⟨a'.placed⟩ ∧ mixedTerminators.Keeps a' "a" (fun _ => fixedEngines) .default := by
  have hkept : mixedTerminators.kept = [0, 1] := by decide +kernel
  have h : ∀ i ∈ mixedTerminators.kept,
      (mixedTerminators.region "a" i).Harmless (mixedTerminators.block i).name fixedEngines .default :=
    fun i _ => harmless_fixedEngines mixedTerminators "a" i _ .default
  exact ⟨hkept, h, (structure_kept mixedTerminators "a" (fun _ => fixedEngines) .default h).2.2⟩

/-- A template whose terminators are rewritten has other attributes, and its content is not the answer. -/
theorem attributes_not_kept :
    (∀ i ∈ mixedTerminators.kept,
      (mixedTerminators.region "a" i).Harmless (mixedTerminators.block i).name fixedEngines .default) ∧
    ∃ t c, (mixedTerminators.document "a").applyEdits
        (Pass.ofDocument fixedEngines .default (mixedTerminators.document "a")).edits = .ok t ∧
      Component.ofText t = .ok c ∧
      c.blocks.map (·.block.attributes) ≠ mixedTerminators.placed.map (·.block.attributes) ∧
      ((mixedTerminators.region "a" 0).attempt fixedEngines .default).1.edit? ≠ none ∧
      c.blocks.head?.map (·.block.content) ≠
        ((mixedTerminators.region "a" 0).answer? fixedEngines .default).map fun out =>
          (mixedTerminators.document "a").terminator.text ++
            Text.withTerminator (mixedTerminators.document "a").terminator.text out := by
  have happly : ((mixedTerminators.document "a").applyEdits
      (Pass.ofDocument fixedEngines .default (mixedTerminators.document "a")).edits).toOption =
        some "\n<template a=\"x\ny\">\np\n</template>\n<script>\nb\n</script>\n".toList := by decide +kernel
  have hread : (Component.ofText "\n<template a=\"x\ny\">\np\n</template>\n<script>\nb\n</script>\n".toList).toOption =
      some ⟨[⟨1, (mixedTerminators.block 0).withTerminator .lf⟩,
        ⟨34, (mixedTerminators.block 1).withContent "\nb\n".toList⟩]⟩ := by decide +kernel
  exact ⟨fun i _ => harmless_fixedEngines mixedTerminators "a" i _ .default, _, _, ok_of_toOption happly,
    ok_of_toOption hread, by decide +kernel, by decide +kernel, by decide +kernel⟩

end Assembly

end ComponentFormat
