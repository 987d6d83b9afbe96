import ComponentFormat.Formatting.Pass
import ComponentFormat.Proofs.Extraction
import ComponentFormat.Proofs.Rewriting
import ComponentFormat.Proofs.Terminators

/-! # What a pass does to a document

Whatever the engines answer, no comparison fails, and an edit is the text of its region with the content, or for
markup the whole lines, replaced by the answer. The edits are applied without a failure and change nothing but the
lines of their regions.
-/
namespace ComponentFormat

theorem Terminator.backslash_not_mem (e : Terminator) : '\\' ∉ e.text := by
  cases e <;> decide

theorem Region.Sound.plain {d : Document} {r : Region} (h : r.Sound d) : '\\' ∉ r.terminator :=
  h.terminator ▸ d.terminator.backslash_not_mem

namespace Region

/-- The lines of a region whose content stands between `before` and `after`, with `out` for the content or, for an
engine that sees them all, for the lines. -/
def rebuilt (r : Region) (before after out : Text) : Text :=
  let text := Text.withTerminator r.terminator out
  if (Handler.forKind r.kind).splices then before ++ (r.terminator ++ text) ++ after
  else Text.trimEnd (fun c => c == '\r' || c == '\n') text

theorem splices_forKind (kind : RegionKind) : (Handler.forKind kind).splices = true ↔ kind ≠ .markup := by
  cases kind <;> simp [Handler.forKind, Handler.markup, Handler.script, Handler.style]

theorem rebuilt_content {r : Region} (hk : r.kind ≠ .markup) (before after out : Text) :
    r.rebuilt before after out = before ++ Text.withTerminator r.terminator ('\n' :: out) ++ after := by
  rw [Text.withTerminator_cons_feed]
  exact if_pos ((splices_forKind _).2 hk)

theorem rebuilt_lines {r : Region} (hk : r.kind = .markup) (before after out : Text) : r.rebuilt before after out =
    Text.trimEnd (fun c => c == '\r' || c == '\n') (Text.withTerminator r.terminator out) :=
  if_neg fun hs => (splices_forKind _).1 hs hk

def answer? (r : Region) (e : Engines) (o : Options) : Option Text :=
  match r.call?.map (e.run o) with
  | some (.text (c :: t)) => some (c :: t)
  | _ => none

section
variable {r : Region} {before after : Text} (hf : r.Frames before after) (hplain : '\\' ∉ r.terminator)
include hf hplain

theorem ofFormatted_eq (c : Char) (t : Text) :
    Outcome.ofFormatted r (some (c :: t)) (Handler.forKind r.kind).splices =
      .ok (if r.rebuilt before after (c :: t) = r.full then
          ⟨r, Text.withTerminator r.terminator (c :: t), .unchanged, []⟩
        else ⟨r, Text.withTerminator r.terminator (c :: t), .changed, r.rebuilt before after (c :: t)⟩) := by
  simp only [Outcome.ofFormatted, Text.rewriteTerminators_of_plain _ hplain, hf.splice_eq, rebuilt,
    mapError_ok, bind, Except.bind, pure, Except.pure]
  split <;> split <;> rfl

theorem exists_ofFormatted (formatted : Option Text) :
    ∃ outcome, Outcome.ofFormatted r formatted (Handler.forKind r.kind).splices = .ok outcome := by
  rcases formatted with _ | _ | ⟨c, t⟩
  · exact ⟨_, rfl⟩
  · exact ⟨_, rfl⟩
  · exact ⟨_, ofFormatted_eq hf hplain c t⟩

theorem edit?_attempt (e : Engines) (o : Options) : (r.attempt e o).1.edit? =
    match r.answer? e o with
    | some out =>
      if r.rebuilt before after out = r.full then none else some ⟨r.span, r.rebuilt before after out⟩
    | none => none := by
  unfold attempt format answer?
  rcases r.call? with _ | call
  · rfl
  · simp only [Option.map_some]
    rcases e.run o call with (_ | ⟨c, t⟩) | _ | _ | _
    · rfl
    · simp only [ofFormatted_eq hf hplain c t]
      split <;> rfl
    · rfl
    · rfl
    · rfl

theorem exists_answer_of_edit? {e : Engines} {o : Options} {edit : Edit} (h : (r.attempt e o).1.edit? = some edit) :
    ∃ out, r.answer? e o = some out ∧ r.rebuilt before after out ≠ r.full ∧
      edit = ⟨r.span, r.rebuilt before after out⟩ := by
  rw [edit?_attempt hf hplain] at h
  cases hout : r.answer? e o with
  | none => simp [hout] at h
  | some out =>
    simp only [hout, Option.ite_none_left_eq_some, Option.some.injEq] at h
    exact ⟨out, rfl, h.1, h.2.symm⟩

/-- Whether there is an edit does not depend on where the region stands. -/
theorem edit?_eq_none_of_span (e : Engines) (o : Options) (span : LineSpan) (h : (r.attempt e o).1.edit? = none) :
    (({ r with span := span } : Region).attempt e o).1.edit? = none := by
  have hf' : ({ r with span := span } : Region).Frames before after := ⟨hf.full, hf.start, hf.stop⟩
  rw [edit?_attempt hf hplain] at h
  rw [edit?_attempt hf' hplain]
  have hsame : ({ r with span := span } : Region).answer? e o = r.answer? e o := rfl
  rw [hsame]
  cases hout : r.answer? e o with
  | none => rfl
  | some out =>
    rw [hout] at h
    simp only [ite_eq_left_iff, reduceCtorEq, imp_false, Decidable.not_not] at h
    exact if_pos h

end

theorem answer?_eq_some_iff {r : Region} {e : Engines} {o : Options} {out : Text} :
    r.answer? e o = some out ↔
      ∃ call, r.call? = some call ∧ e.run o call = .text out ∧ out ≠ [] := by
  unfold answer?
  rcases r.call? with _ | call
  · simp
  · rcases h : e.run o call with (_ | ⟨c, t⟩) | _ | _ | _ <;> simp [h, eq_comm]
    rintro rfl
    simp

/-- What an engine is given of a region, and what its answer replaces. -/
def payload (r : Region) : Text :=
  if (Handler.forKind r.kind).splices then r.content else r.full

theorem payload_content {r : Region} (hk : r.kind ≠ .markup) : r.payload = r.content :=
  if_pos ((splices_forKind _).2 hk)

theorem payload_lines {r : Region} (hk : r.kind = .markup) : r.payload = r.full :=
  if_neg fun hs => (splices_forKind _).1 hs hk

theorem call?_eq_some_iff {r : Region} {c : Call} : r.call? = some c ↔ Text.isAllBlank r.content = false ∧
    ∃ parser, (Handler.forKind r.kind).selectParser r.lang = some parser ∧
      Call.to (Handler.forKind r.kind).family parser r.payload = c := by
  unfold call?
  dsimp only
  split
  · next hblank => simp [hblank]
  · next hblank =>
    rw [Bool.not_eq_true] at hblank
    rw [Option.map_eq_some_iff, and_iff_right hblank]
    rfl

theorem exists_run_of_answer? {r : Region} {e : Engines} {o : Options} {out : Text} (h : r.answer? e o = some out) :
    Text.isAllBlank r.content = false ∧ ∃ parser, (Handler.forKind r.kind).selectParser r.lang = some parser ∧
      e.run o (Call.to (Handler.forKind r.kind).family parser r.payload) = .text out := by
  obtain ⟨call, hcall, hrun, -⟩ := answer?_eq_some_iff.1 h
  obtain ⟨hblank, parser, hparser, rfl⟩ := call?_eq_some_iff.1 hcall
  exact ⟨hblank, parser, hparser, hrun⟩

/-- What an edit puts in the place of a region's lines when the engines are `e`. -/
structure Revised (d : Document) (e : Engines) (o : Options) (r : Region) (edit : Edit) : Prop where
  span : edit.span = r.span
  differs : ∃ old, d.wholeLines r.span.first r.span.last = .ok old ∧ edit.text ≠ old
  answered : ∃ call out, r.call? = some call ∧ e.run o call = .text out ∧ out ≠ [] ∧
    (r.kind ≠ .markup → ∃ before after,
      d.wholeLines r.span.first r.span.last = .ok (before ++ r.content ++ after) ∧
      r.contentStart = some (before.length : Int) ∧
      edit.text = before ++ (d.terminator.text ++ Text.withTerminator d.terminator.text out) ++ after) ∧
    (r.kind = .markup →
      edit.text = Text.trimEnd (fun c => c == '\r' || c == '\n') (Text.withTerminator d.terminator.text out))

theorem Frames.length_unique {r : Region} {before after before' after' : Text}
    (h : r.Frames before after) (hfull : r.full = before' ++ r.content ++ after')
    (hstart : r.contentStart = some (before'.length : Int)) : before' = before ∧ after' = after := by
  have hlen : before'.length = before.length := by
    rw [h.start] at hstart
    exact Int.ofNat.inj (Option.some.inj hstart).symm
  have heq := hfull.symm.trans h.full
  rw [List.append_assoc, List.append_assoc] at heq
  obtain ⟨rfl, htail⟩ := List.append_inj heq hlen
  exact ⟨rfl, List.append_cancel_left htail⟩

theorem revised_iff {d : Document} {e : Engines} {o : Options} {r : Region} {before after : Text} {edit : Edit}
    (hs : r.Sound d) (hf : r.Frames before after) :
    r.Revised d e o edit ↔ (r.attempt e o).1.edit? = some edit := by
  have hplain := hs.plain
  constructor
  · rintro ⟨hspan, ⟨old, hold, hne⟩, call, out, hcall, hrun, hout, hsplice, hmarkup⟩
    cases hs.full.symm.trans hold
    have htext : edit.text = r.rebuilt before after out := by
      by_cases hk : r.kind = .markup
      · rw [hmarkup hk, rebuilt_lines hk, hs.terminator]
      · obtain ⟨before', after', hfull, hstart, ht⟩ := hsplice hk
        rw [hs.full] at hfull
        obtain ⟨rfl, rfl⟩ := hf.length_unique (Except.ok.inj hfull) hstart
        rw [ht, rebuilt_content hk, Text.withTerminator_cons_feed, hs.terminator]
    rw [edit?_attempt hf hplain, answer?_eq_some_iff.2 ⟨call, hcall, hrun, hout⟩]
    dsimp only
    rw [if_neg (htext ▸ hne), ← htext, ← hspan]
  · intro h
    obtain ⟨out, ha, hne, rfl⟩ := exists_answer_of_edit? hf hplain h
    obtain ⟨call, hcall, hrun, hout⟩ := answer?_eq_some_iff.1 ha
    refine ⟨rfl, ⟨r.full, hs.full, hne⟩, call, out, hcall, hrun, hout, fun hk => ?_, fun hk => ?_⟩
    · refine ⟨before, after, hf.full ▸ hs.full, hf.start, ?_⟩
      rw [rebuilt_content hk, Text.withTerminator_cons_feed, hs.terminator]
    · rw [rebuilt_lines hk, hs.terminator]

end Region

namespace Pass
variable (e : Region → Engines) (o : Options) (d : Document)

theorem edits_ofDocumentBy : (ofDocumentBy e o d).edits =
    (Extraction.ofDocument d).regions.filterMap fun r => (r.attempt (e r) o).1.edit? := by
  simp [ofDocumentBy, ofExtractionBy, ofRegions, edits, List.filterMap_map, Function.comp_def]

theorem sound_of_mem {r : Region} (hr : r ∈ (Extraction.ofDocument d).regions) :
    r.Sound d ∧ ∃ before after, r.Frames before after := by
  obtain ⟨c, p, x, y, -, -, hs, he⟩ := Extraction.exists_of_mem_regions hr
  rw [he]
  exact ⟨Region.sound_ofBlock r.kind hs, _, _, Region.ofBlock_frames r.kind hs⟩

theorem span_of_edit? {r : Region} {engines : Engines} {edit : Edit}
    (hr : r ∈ (Extraction.ofDocument d).regions) (h : (r.attempt engines o).1.edit? = some edit) :
    edit.span = r.span := by
  obtain ⟨hs, before, after, hf⟩ := sound_of_mem d hr
  exact ((Region.revised_iff hs hf).2 h).span

theorem pairwise_edits : (ofDocumentBy e o d).edits.Pairwise fun a b => a.span.last < b.span.first := by
  rw [edits_ofDocumentBy, List.pairwise_filterMap]
  refine (Extraction.pairwise_regions d).imp_of_mem ?_
  intro r s hr hs hlt a ha b hb
  rw [span_of_edit? o d hr ha, span_of_edit? o d hs hb]
  exact hlt

theorem last_lt_lineCount : ∀ edit ∈ (ofDocumentBy e o d).edits, edit.span.last < d.lineCount := by
  intro edit hedit
  rw [edits_ofDocumentBy] at hedit
  obtain ⟨r, hr, h⟩ := List.mem_filterMap.1 hedit
  rw [span_of_edit? o d hr h]
  exact (sound_of_mem d hr).1.inside

/-- The edits of a pass are applied and change nothing but their lines. -/
theorem exists_rewrites : ∃ t, d.applyEdits (ofDocumentBy e o d).edits = .ok t ∧
    d.Rewrites 0 (ofDocumentBy e o d).edits d.text t :=
  Document.exists_applyEdits (pairwise_edits e o d) (last_lt_lineCount e o d)

/-- Whatever engines answer the regions: extraction succeeds, every region is compared, the edits ascend, share no
line and stay within the document, they stand for exactly the regions whose answer changes their lines and are made
from that answer, and they are applied and change nothing but their lines. -/
theorem edits_faithful :
    Extraction.build d = .ok (Extraction.ofDocument d) ∧
    (∀ r ∈ (Extraction.ofDocument d).regions, ∃ outcome,
      Outcome.ofFormatted r (r.format (e r) o).text (Handler.forKind r.kind).splices = .ok outcome) ∧
    ((ofDocumentBy e o d).edits.Pairwise fun a b => a.span.last < b.span.first) ∧
    (∀ edit ∈ (ofDocumentBy e o d).edits, edit.span.last < d.lineCount) ∧
    (∀ edit, edit ∈ (ofDocumentBy e o d).edits ↔
      ∃ r ∈ (Extraction.ofDocument d).regions, r.Revised d (e r) o edit) ∧
    ∃ t, d.applyEdits (ofDocumentBy e o d).edits = .ok t ∧
      d.Rewrites 0 (ofDocumentBy e o d).edits d.text t := by
  refine ⟨Extraction.build_eq d, fun r hr => ?_, pairwise_edits e o d, last_lt_lineCount e o d, fun edit => ?_,
    exists_rewrites e o d⟩
  · obtain ⟨hs, before, after, hf⟩ := sound_of_mem d hr
    exact Region.exists_ofFormatted hf (hs.terminator ▸ d.terminator.backslash_not_mem) _
  · rw [edits_ofDocumentBy, List.mem_filterMap]
    refine exists_congr fun r => and_congr_right fun hr => ?_
    obtain ⟨hs, before, after, hf⟩ := sound_of_mem d hr
    exact (Region.revised_iff hs hf).symm

end Pass

end ComponentFormat
