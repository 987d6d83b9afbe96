import Mathlib.Data.List.DropRight
import ComponentFormat.Engine.Command
import ComponentFormat.Proofs.Isolation

/-! # Blocks that a pass empties

An answer is looked at before its terminators are taken off. One without a character leaves its region alone; one of
terminators only counts as a text. In the place of a whole block it comes to nothing and the block is gone, between tags
it is all that is left of the content (`Pass.edits_emptied`). The markup engine on the command line takes the
terminators off itself, and no block goes with it.
-/
namespace ComponentFormat

theorem Terminator.text_ne_nil (e : Terminator) : e.text ≠ [] := by
  cases e <;> simp [Terminator.text]

namespace Text

/-- There is nothing in the text but terminators. -/
def Hollow (t : Text) : Prop := ∀ c ∈ t, isBreak c = true

theorem Hollow.blank {t : Text} (h : t.Hollow) : t.Blank := by
  intro c hc
  exact isBlank_of_isBreak (h c hc)

theorem hollow_terminator (e : Terminator) : Hollow e.text := by
  cases e <;> simp [Terminator.text, Hollow, isBreak]

theorem trimEnd_eq_nil_iff {t : Text} : trimEnd (fun c => c == '\r' || c == '\n') t = [] ↔ t.Hollow := by
  refine List.rdropWhile_eq_nil_iff.trans (forall₂_congr fun c _ => ?_)
  rw [isBreak, Bool.or_comm]

theorem mem_withTerminator {c : Char} (hc : isBreak c = false) (e : Terminator) {t : Text} :
    c ∈ withTerminator e.text t ↔ c ∈ t := by
  have hnot (f : Terminator) : c ∉ f.text := by
    intro hf
    have hbreak := hollow_terminator f c hf
    rw [hc] at hbreak
    cases hbreak
  have hlines (l : Lines) : c ∈ l.renderWith e.text ↔ c ∈ l.toText := by
    simp [Lines.renderWith, Lines.renderBy, Lines.toText, hnot]
  rw [withTerminator, hlines, Lines.toText_ofText]

theorem hollow_withTerminator (e : Terminator) {t : Text} : Hollow (withTerminator e.text t) ↔ t.Hollow := by
  have hiff (u : Text) : u.Hollow ↔ ∀ c, isBreak c = false → c ∉ u := by
    constructor
    · intro h c hc hmem
      rw [h c hmem] at hc
      cases hc
    · intro h c hmem
      by_contra hc
      exact h c (Bool.eq_false_iff.2 hc) hmem
  rw [hiff, hiff]
  exact forall₂_congr fun c hc => not_congr (mem_withTerminator hc e)

end Text

namespace Region
variable {d : Document} {r : Region} {e : Engines} {o : Options} {out : Text}

def Answered (r : Region) (e : Engines) (o : Options) (out : Text) : Prop :=
  ∃ call, r.call? = some call ∧ e.run o call = .text out

theorem answer?_eq_some_iff_answered : r.answer? e o = some out ↔ r.Answered e o out ∧ out ≠ [] := by
  rw [answer?_eq_some_iff]
  constructor
  · rintro ⟨call, hcall, hrun, hsome⟩
    exact ⟨⟨call, hcall, hrun⟩, hsome⟩
  · rintro ⟨⟨call, hcall, hrun⟩, hsome⟩
    exact ⟨call, hcall, hrun, hsome⟩

theorem Answered.not_blank (h : r.Answered e o out) : ¬r.content.Blank := by
  obtain ⟨call, hcall, -⟩ := h
  have hblank := (call?_eq_some_iff.1 hcall).1
  intro hall
  rw [Text.isAllBlank, List.all_eq_true.2 hall] at hblank
  cases hblank

theorem Answered.unchanged (h : r.Answered e o []) : (r.attempt e o).1 = ⟨r, [], .unchanged, []⟩ := by
  obtain ⟨call, hcall, hrun⟩ := h
  rw [fst_attempt, text_format, hcall]
  dsimp only
  rw [hrun]
  rfl

theorem Answered.full_ne_nil (h : r.Answered e o out) {before after : Text} (hf : r.Frames before after) :
    r.full ≠ [] := by
  intro hnil
  have hcontent : r.content = [] := by
    rw [hf.full] at hnil
    exact (List.append_eq_nil_iff.1 (List.append_eq_nil_iff.1 hnil).1).2
  exact h.not_blank (by simp [hcontent, Text.Blank])

section
variable {before after : Text} (hs : r.Sound d) (hf : r.Frames before after)
include hs

theorem rebuilt_eq_nil_iff : r.rebuilt before after out = [] ↔ r.kind = .markup ∧ out.Hollow := by
  by_cases hk : r.kind = .markup
  · rw [rebuilt_lines hk, hs.terminator, Text.trimEnd_eq_nil_iff, Text.hollow_withTerminator, and_iff_right hk]
  · refine iff_of_false ?_ fun h => hk h.1
    -- a terminator stands in front of every answer that goes between tags
    rw [rebuilt_content hk, Text.withTerminator_cons_feed, hs.terminator]
    simp [d.terminator.text_ne_nil]

include hf

/-- The lines of a region are replaced by nothing just where they are markup and the answer is nothing but
terminators. -/
theorem edit?_eq_nil_iff {span : LineSpan} : (r.attempt e o).1.edit? = some ⟨span, []⟩ ↔
    r.span = span ∧ r.kind = .markup ∧ ∃ out, r.Answered e o out ∧ out ≠ [] ∧ out.Hollow := by
  constructor
  · intro h
    obtain ⟨out, hout, -, hedit⟩ := exists_answer_of_edit? hf hs.plain h
    obtain ⟨hspan, htext⟩ := Edit.mk.inj hedit
    obtain ⟨hanswered, hsome⟩ := answer?_eq_some_iff_answered.1 hout
    obtain ⟨hk, hhollow⟩ := (rebuilt_eq_nil_iff hs).1 htext.symm
    exact ⟨hspan.symm, hk, out, hanswered, hsome, hhollow⟩
  · rintro ⟨rfl, hk, out, hanswered, hsome, hhollow⟩
    have htext : r.rebuilt before after out = [] := (rebuilt_eq_nil_iff hs).2 ⟨hk, hhollow⟩
    rw [edit?_attempt hf hs.plain, answer?_eq_some_iff_answered.2 ⟨hanswered, hsome⟩]
    dsimp only
    rw [htext, if_neg (hanswered.full_ne_nil hf).symm]

/-- Between tags, an answer of terminators only is written in the place of a content that is not blank. -/
theorem exists_emptied (hk : r.kind ≠ .markup) (h : r.Answered e o out) (hsome : out ≠ []) (hhollow : out.Hollow) :
    ∃ inserted : Text, inserted ≠ [] ∧ inserted.Hollow ∧
      (r.attempt e o).1.edit? = some ⟨r.span, before ++ inserted ++ after⟩ := by
  have htext := rebuilt_content hk before after out
  have hinserted : Text.Hollow (Text.withTerminator r.terminator ('\n' :: out)) := by
    rw [hs.terminator, Text.hollow_withTerminator]
    exact List.forall_mem_cons.2 ⟨rfl, hhollow⟩
  refine ⟨_, ?_, hinserted, ?_⟩
  · rw [Text.withTerminator_cons_feed, hs.terminator]
    simp [d.terminator.text_ne_nil]
  · have hne : r.rebuilt before after out ≠ r.full := by
      rw [htext, hf.full]
      intro he
      have hsame := List.append_cancel_left (List.append_cancel_right he)
      exact h.not_blank (hsame ▸ hinserted.blank)
    rw [edit?_attempt hf hs.plain, answer?_eq_some_iff_answered.2 ⟨h, hsome⟩]
    dsimp only
    rw [if_neg hne, htext]

end

end Region

/-- What the markup engine gives back on the command line ends in no terminator. -/
theorem EngineSettings.eq_nil_of_hollow {s : EngineSettings} {t out : Text} {o : Options}
    (h : s.engines.markup t o = .text out) (hhollow : out.Hollow) : out = [] := by
  unfold engines at h
  dsimp only at h
  cases hformat : s.formatMarkup t o with
  | error err =>
    rw [hformat] at h
    cases err <;> cases h
  | ok t' =>
    rw [hformat] at h
    cases h
    obtain ⟨arguments, -, hrun⟩ := bind_eq_ok_iff.1 hformat
    obtain ⟨printed, -, htrim⟩ := bind_eq_ok_iff.1 hrun
    cases htrim
    exact (List.rdropWhile_idempotent _ printed).symm.trans (Text.trimEnd_eq_nil_iff.2 hhollow)

namespace Pass
variable (e : Region → Engines) (o : Options) (d : Document)

/-- The edits that leave nothing of a block or of its content. The lines of a region are replaced by nothing if and only
if they are markup and the answer is a text of terminators only. An answer without a character leaves every region as it
is; one of terminators only, where it goes between tags, takes the place of all of the content. With the engines of the
command line no edit is empty. -/
theorem edits_emptied :
    (∀ span, ⟨span, []⟩ ∈ (ofDocumentBy e o d).edits ↔ ∃ r ∈ (Extraction.ofDocument d).regions,
      r.span = span ∧ r.kind = .markup ∧ ∃ out, r.Answered (e r) o out ∧ out ≠ [] ∧ out.Hollow) ∧
    (∀ r ∈ (Extraction.ofDocument d).regions, r.Answered (e r) o [] →
      ⟨r, [], .unchanged, []⟩ ∈ (ofDocumentBy e o d).outcomes) ∧
    (∀ r ∈ (Extraction.ofDocument d).regions, r.kind ≠ .markup → ∀ out, r.Answered (e r) o out → out ≠ [] →
      out.Hollow → ∃ before inserted after : Text,
        d.wholeLines r.span.first r.span.last = .ok (before ++ r.content ++ after) ∧
        r.contentStart = some (before.length : Int) ∧ ¬r.content.Blank ∧ inserted ≠ [] ∧ inserted.Hollow ∧
        ⟨r.span, before ++ inserted ++ after⟩ ∈ (ofDocumentBy e o d).edits) ∧
    ∀ s : EngineSettings, ∀ edit ∈ (ofDocumentBy (fun _ => s.engines) o d).edits, edit.text ≠ [] := by
  have hempty (e : Region → Engines) (span : LineSpan) : ⟨span, []⟩ ∈ (ofDocumentBy e o d).edits ↔
      ∃ r ∈ (Extraction.ofDocument d).regions, r.span = span ∧ r.kind = .markup ∧
        ∃ out, r.Answered (e r) o out ∧ out ≠ [] ∧ out.Hollow := by
    rw [edits_ofDocumentBy, List.mem_filterMap]
    refine exists_congr fun r => and_congr_right fun hr => ?_
    obtain ⟨hs, before, after, hf⟩ := sound_of_mem d hr
    exact Region.edit?_eq_nil_iff hs hf
  refine ⟨hempty e, ?_, ?_, ?_⟩
  · intro r hr h
    rw [outcomes_ofDocumentBy, ← h.unchanged]
    exact List.mem_map_of_mem hr
  · intro r hr hk out h hsome hhollow
    obtain ⟨hs, before, after, hf⟩ := sound_of_mem d hr
    obtain ⟨inserted, hne, hinserted, hedit⟩ := Region.exists_emptied hs hf hk h hsome hhollow
    refine ⟨before, inserted, after, hf.full ▸ hs.full, hf.start, h.not_blank, hne, hinserted, ?_⟩
    rw [edits_ofDocumentBy]
    exact List.mem_filterMap.2 ⟨r, hr, hedit⟩
  · rintro s ⟨span, text⟩ hedit rfl
    obtain ⟨r, -, -, hk, out, ⟨call, hcall, hrun⟩, hsome, hhollow⟩ := (hempty _ span).1 hedit
    obtain ⟨-, parser, -, rfl⟩ := Region.call?_eq_some_iff.1 hcall
    rw [hk] at hrun
    exact hsome (EngineSettings.eq_nil_of_hollow hrun hhollow)

/-- Engines for which a line feed is all there is to any text. -/
def clearing : Engines where
  markup _ _ := .text ['\n']
  code _ _ _ := .text ['\n']
  stylesheet _ _ _ := .text ['\n']

/-- A template that is gone, and a script without its content. -/
theorem edits_clearing :
    (ofDocumentBy (fun _ => clearing) .default
        (.ofText "<template>\n<p>a</p>\n</template>\n<script>a</script>\n".toList)).edits.map
      (fun edit => (edit.span.first, edit.span.last, edit.text)) =
        [(0, 2, []), (3, 3, "<script>\n\n</script>".toList)] := by
  decide +kernel

end Pass

end ComponentFormat
