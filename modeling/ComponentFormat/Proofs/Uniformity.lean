import ComponentFormat.Proofs.Isolation
import ComponentFormat.Proofs.Prevalence

/-! # Terminators of one kind after a pass

Whatever terminators the engines write, an answer goes into the document line by line with the terminator that prevails
there. Where a document has terminators of one kind only, no other one is made, not even where two texts meet, and the
text after a pass has none but these (`Pass.terminators_uniform`).
-/
namespace ComponentFormat

/-- The answer `out` goes into the lines of the outcome's region with the terminator `e`: what goes in has the lines of
the answer, and `text` is the lines of the region with it for the content or, for markup, for all of them. -/
structure Outcome.Inserts (e : Terminator) (outcome : Outcome) (out text : Text) : Prop where
  lines : (Lines.ofText outcome.formatted).texts = (Lines.ofText out).texts
  uses : outcome.formatted.Uses e
  content : outcome.region.kind ≠ .markup → ∃ before after,
    outcome.region.full = before ++ outcome.region.content ++ after ∧
      text = before ++ (e.text ++ outcome.formatted) ++ after
  whole : outcome.region.kind = .markup →
    text = Text.trimEnd (fun c => c == '\r' || c == '\n') outcome.formatted

namespace Region

theorem formatted_attempt {r : Region} {before after : Text} (hf : r.Frames before after) (hplain : '\\' ∉ r.terminator)
    {e : Engines} {o : Options} {out : Text} (h : r.answer? e o = some out) :
    (r.attempt e o).1.formatted = Text.withTerminator r.terminator out := by
  obtain ⟨call, hcall, hrun, hsome⟩ := answer?_eq_some_iff.1 h
  obtain ⟨c, t, rfl⟩ := List.exists_cons_of_ne_nil hsome
  have htext : (r.format e o).text = some (c :: t) := by
    rw [text_format, hcall]
    dsimp only
    rw [hrun]
    rfl
  rw [fst_attempt, htext, ofFormatted_eq hf hplain]
  dsimp only
  split <;> rfl

theorem inserts_attempt {d : Document} {r : Region} (hr : r ∈ (Extraction.ofDocument d).regions) {e : Engines}
    {o : Options} {edit : Edit} (hedit : (r.attempt e o).1.edit? = some edit) :
    ∃ call out, r.call? = some call ∧ e.run o call = .text out ∧
      (r.attempt e o).1.Inserts d.terminator out edit.text := by
  obtain ⟨hs, before, after, hf⟩ := Pass.sound_of_mem d hr
  obtain ⟨out, hout, -, rfl⟩ := exists_answer_of_edit? hf hs.plain hedit
  obtain ⟨call, hcall, hrun, -⟩ := answer?_eq_some_iff.1 hout
  refine ⟨call, out, hcall, hrun, ?_⟩
  have hformatted := formatted_attempt hf hs.plain hout
  have hregion := region_attempt hf hs.plain e o
  rw [hs.terminator] at hformatted
  constructor
  · rw [hformatted, Text.ofText_withTerminator, Lines.texts_endedBy]
  · rw [hformatted]
    exact Text.uses_withTerminator d.terminator out
  · rw [hregion, hformatted]
    intro hk
    refine ⟨before, after, hf.full, ?_⟩
    rw [rebuilt_content hk, Text.withTerminator_cons_feed, hs.terminator]
  · rw [hregion, hformatted]
    intro hk
    rw [rebuilt_lines hk, hs.terminator]

end Region

namespace Document
variable {d : Document} {e : Terminator}

theorem Rewrites.uses {edits : List Edit} {front old new : Text} (h : d.Rewrites front.length edits old new)
    (ht : d.text = front ++ old) (hold : old.Uses e)
    (hedits : ∀ edit ∈ edits, ∃ lines, d.wholeLines edit.span.first edit.span.last = .ok lines ∧ lines.Sealed ∧
      (lines.Uses e → edit.text.Uses e)) : new.Uses e := by
  induction edits generalizing front old new with
  | nil =>
    cases h
    exact hold
  | cons edit more ih =>
    obtain ⟨hedit, hmore⟩ := List.forall_mem_cons.1 hedits
    obtain ⟨kept, lines, old, new, rfl, rfl, -, hlines, hrest, ht⟩ := h.exists_step ht
    obtain ⟨lines', hlines', hsealed, huses⟩ := hedit
    cases hlines.symm.trans hlines'
    -- taking the lines out tears no terminator apart, and putting a text in makes none of two
    obtain ⟨⟨hkept, hlines⟩, hbehind⟩ := (Text.uses_between hsealed.first hsealed.last).1 hold
    exact (hkept.append (huses hlines)).append (ih hrest ht hbehind hmore)

end Document

namespace Pass
variable (engines : Region → Engines) (o : Options) (d : Document)

theorem exists_inserts {edit : Edit} (h : edit ∈ (ofDocumentBy engines o d).edits) :
    ∃ outcome ∈ (ofDocumentBy engines o d).outcomes, ∃ call out, outcome.edit? = some edit ∧
      outcome.region.call? = some call ∧ (engines outcome.region).run o call = .text out ∧
      outcome.Inserts d.terminator out edit.text := by
  rw [edits_ofDocumentBy] at h
  obtain ⟨r, hr, hedit⟩ := List.mem_filterMap.1 h
  obtain ⟨hs, before, after, hf⟩ := sound_of_mem d hr
  have hregion := Region.region_attempt hf hs.plain (engines r) o
  obtain ⟨call, out, hcall, hrun, hinserts⟩ := Region.inserts_attempt hr hedit
  refine ⟨(r.attempt (engines r) o).1, ?_, call, out, hedit, ?_, ?_, hinserts⟩
  · rw [outcomes_ofDocumentBy]
    exact List.mem_map_of_mem hr
  · rwa [hregion]
  · rwa [hregion]

/-- The lines of an edit end in no terminator, and where theirs are of the document's kind, so are those of its text. -/
theorem uses_edit {edit : Edit} (h : edit ∈ (ofDocumentBy engines o d).edits) :
    ∃ lines, d.wholeLines edit.span.first edit.span.last = .ok lines ∧ lines.Sealed ∧
      (lines.Uses d.terminator → edit.text.Uses d.terminator) := by
  rw [edits_ofDocumentBy] at h
  obtain ⟨r, hr, hedit⟩ := List.mem_filterMap.1 h
  have hspan := span_of_edit? o d hr hedit
  obtain ⟨c, p, x, y, -, -, hs, he⟩ := Extraction.exists_of_mem_regions hr
  rw [hspan, he]
  rw [he] at hedit
  exact ⟨_, (Region.sound_ofBlock r.kind hs).full, Region.sealed_full hs, (Region.traded hs hedit).uniform⟩

/-- Where all terminators of a document are the same, and a line feed where there is none, the text after a pass has no
other terminator, and each edit puts the lines of an answer in with this terminator. -/
theorem terminators_uniform {d : Document} {e : Terminator} (h : ∀ f ∈ d.lines.terminators, f = e)
    (hnone : d.lines.terminators = [] → e = .lf) :
    (∃ t, d.applyEdits (ofDocumentBy engines o d).edits = .ok t ∧ ∀ f ∈ (Lines.ofText t).terminators, f = e) ∧
    ∀ edit ∈ (ofDocumentBy engines o d).edits, ∃ outcome ∈ (ofDocumentBy engines o d).outcomes, ∃ call out,
      outcome.edit? = some edit ∧ outcome.region.call? = some call ∧
      (engines outcome.region).run o call = .text out ∧ outcome.Inserts e out edit.text := by
  have hterm : d.terminator = e := by
    refine Document.terminator_eq h ?_
    by_cases hb : d.text.HasBreak
    · exact .inr hb
    · exact .inl (hnone (by rw [Lines.terminators, Document.lines, Text.ended_eq_nil hb, List.map_nil]))
  subst hterm
  obtain ⟨t, ht, hrewrites⟩ := exists_rewrites engines o d
  rw [← List.length_nil] at hrewrites
  exact ⟨⟨t, ht, hrewrites.uses rfl h fun edit => uses_edit engines o d⟩, fun edit => exists_inserts engines o d⟩

/-- Answers with terminators of all kinds, also where they start and end. -/
def mixing : Engines where
  markup _ _ := .text "\n<p>\r\na\r</p>\n\r".toList
  code _ _ _ := .text "\nb\r\n\rc\r".toList
  stylesheet _ _ _ := .nothing

def carriages : Document := .ofText "<template>\r<p>a</p>\r</template>\r<script>b</script>\r".toList

theorem terminators_uniform_carriages :
    (∀ f ∈ carriages.lines.terminators, f = .cr) ∧
    (ofDocumentBy (fun _ => mixing) .default carriages).edits.map Edit.text =
      ["\r<p>\ra\r</p>".toList, "<script>\r\rb\r\rc\r</script>".toList] ∧
    ∃ t, carriages.applyEdits (ofDocumentBy (fun _ => mixing) .default carriages).edits = .ok t ∧
      ∀ f ∈ (Lines.ofText t).terminators, f = .cr := by
  have h : ∀ f ∈ carriages.lines.terminators, f = .cr := by decide +kernel
  exact ⟨h, by decide +kernel, (terminators_uniform (fun _ => mixing) .default h (by decide +kernel)).1⟩

end Pass

end ComponentFormat
