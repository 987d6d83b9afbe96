import Mathlib.Data.List.Forall2
import ComponentFormat.Proofs.Passes
import ComponentFormat.Proofs.Records

/-! # The calls of a pass

The document decides which calls a pass makes: one for every region with work to do, in the order of the text, whatever
the engines answer. An answer decides what becomes of its own region and of no other (`Pass.calls_isolated`). This holds
for engines with a memory too, since all they can remember are calls (`Pass.inTurn_eq`).
-/
namespace ComponentFormat

def Reply.output? : Reply → Option Text
  | .text t => some t
  | .nothing | .refused _ | .crashed => none

namespace Region

/-- The content is not blank and its language has a parser. -/
def hasWork (r : Region) : Bool :=
  !Text.isAllBlank r.content && ((Handler.forKind r.kind).selectParser r.lang).isSome

/-- The call is the one to make for the region: to the engine of its kind with the parser of its language, about its
lines if it is markup, and otherwise about the part of the document between the ends of its content. -/
structure Asks (d : Document) (r : Region) (c : Call) : Prop where
  work : Text.isAllBlank r.content = false
  parser : ∃ parser, (Handler.forKind r.kind).selectParser r.lang = some parser ∧
    c = Call.to (Handler.forKind r.kind).family parser c.text
  lines : r.kind = .markup → d.wholeLines r.span.first r.span.last = .ok c.text
  content : r.kind ≠ .markup → ∃ origin start stop : Nat, d.lineStart r.span.first = .ok origin ∧
    r.contentStart = some ((start : Int) - origin) ∧ r.contentEnd = some ((stop : Int) - origin) ∧
    start ≤ stop ∧ stop ≤ d.length ∧ c.text = d.cut start stop

theorem isSome_call? (r : Region) : r.call?.isSome = r.hasWork := by
  unfold call? hasWork
  dsimp only
  split
  · next hblank => simp [hblank]
  · next hblank => simp [hblank]

theorem text_to (family : Family) (parser text : Text) : (Call.to family parser text).text = text := by
  cases family <;> rfl

theorem exists_cut_content {d : Document} {r : Region} (hr : r ∈ (Extraction.ofDocument d).regions) :
    ∃ origin start stop : Nat, d.lineStart r.span.first = .ok origin ∧ r.contentStart = some ((start : Int) - origin) ∧
      r.contentEnd = some ((stop : Int) - origin) ∧ start ≤ stop ∧ stop ≤ d.length ∧
      r.content = d.cut start stop := by
  obtain ⟨c, p, x, y, -, -, hs, he⟩ := Extraction.exists_of_mem_regions hr
  have htext : d.text = x ++ (p.block.source ++ y) := by rw [hs.text, List.append_assoc]
  have hstop := Placed.stop_le_length htext hs.start
  rw [he]
  refine ⟨_, p.contentStart, p.contentEnd, lineStart_first r.kind hs, rfl, rfl, Nat.le_add_right .., ?_,
    (Placed.cut_content htext hs.start).symm⟩
  exact Nat.le_trans (Nat.le_add_right ..) hstop

theorem asks_iff {d : Document} {r : Region} (hr : r ∈ (Extraction.ofDocument d).regions) {c : Call} :
    r.Asks d c ↔ r.call? = some c := by
  have hfull := (Pass.sound_of_mem d hr).1.full
  obtain ⟨origin, start, stop, horigin, hstart, hstop, hle, hlen, hcontent⟩ := exists_cut_content hr
  rw [call?_eq_some_iff]
  constructor
  · rintro ⟨hwork, ⟨parser, hparser, hc⟩, hlines, hcut⟩
    -- the lines and the offsets of a region leave one text for the call
    have htext : c.text = r.payload := by
      by_cases hk : r.kind = .markup
      · rw [payload_lines hk]
        exact Except.ok.inj ((hlines hk).symm.trans hfull)
      · obtain ⟨origin', start', stop', horigin', hstart', hstop', -, -, htext⟩ := hcut hk
        cases horigin.symm.trans horigin'
        have hs : (start : Int) - origin = start' - origin := Option.some.inj (hstart.symm.trans hstart')
        have he : (stop : Int) - origin = stop' - origin := Option.some.inj (hstop.symm.trans hstop')
        obtain rfl : start = start' := by omega
        obtain rfl : stop = stop' := by omega
        rw [payload_content hk, htext, hcontent]
    exact ⟨hwork, parser, hparser, by rw [hc, htext]⟩
  · rintro ⟨hwork, parser, hparser, rfl⟩
    refine ⟨hwork, ⟨parser, hparser, by rw [text_to]⟩, fun hk => ?_, fun hk => ?_⟩
    · rw [text_to, payload_lines hk, hfull]
    · refine ⟨origin, start, stop, horigin, hstart, hstop, hle, hlen, ?_⟩
      rw [text_to, payload_content hk, hcontent]

section
variable (e : Engines) (o : Options) (r : Region)

theorem text_format : (r.format e o).text = match r.call? with
    | none => some []
    | some c => (e.run o c).output? := by
  unfold format
  rcases r.call? with _ | c
  · rfl
  · dsimp only
    cases e.run o c <;> rfl

theorem calls_attempt : (r.attempt e o).2.calls = r.call?.toList := by
  have hformat : (r.format e o).trace.calls = r.call?.toList := by
    unfold format
    rcases r.call? with _ | c
    · rfl
    · dsimp only
      cases e.run o c <;> rfl
  unfold attempt
  dsimp only
  split
  · exact hformat
  · exact (List.append_nil _).trans hformat
  · exact hformat

theorem fst_attempt : (r.attempt e o).1 =
    match Outcome.ofFormatted r (r.format e o).text (Handler.forKind r.kind).splices with
    | .ok outcome => outcome
    | .error _ => ⟨r, (r.format e o).text.getD [], .failed, []⟩ := by
  unfold attempt
  dsimp only
  split <;> next h => rw [h]

end

theorem fst_attempt_congr {e e' : Engines} {o : Options} {r : Region}
    (h : ∀ c, r.call? = some c → (e.run o c).output? = (e'.run o c).output?) :
    (r.attempt e o).1 = (r.attempt e' o).1 := by
  have htext : (r.format e o).text = (r.format e' o).text := by
    rw [text_format, text_format]
    cases hcall : r.call? with
    | none => rfl
    | some c => exact h c hcall
  rw [fst_attempt, fst_attempt, htext]

section
variable {r : Region} {before after : Text} (hf : r.Frames before after) (hplain : '\\' ∉ r.terminator) (e : Engines)
  (o : Options)
include hf hplain

theorem outcome_attempt : (r.attempt e o).1.region = r ∧
    ((r.attempt e o).1.status = .failed ↔ (r.format e o).text = none) := by
  rw [fst_attempt]
  rcases (r.format e o).text with _ | _ | ⟨c, t⟩
  · simp [Outcome.ofFormatted]
  · simp [Outcome.ofFormatted]
  · rw [ofFormatted_eq hf hplain]
    dsimp only
    split <;> simp

theorem region_attempt : (r.attempt e o).1.region = r :=
  (outcome_attempt hf hplain e o).1

theorem status_attempt : (r.attempt e o).1.status = .failed ↔
    ∃ c, r.call? = some c ∧ (e.run o c).output? = none := by
  rw [(outcome_attempt hf hplain e o).2, text_format]
  cases r.call? <;> simp

end

end Region

namespace Pass
variable (e e' : Region → Engines) (o : Options) (d : Document)

theorem outcomes_ofDocumentBy : (ofDocumentBy e o d).outcomes =
    (Extraction.ofDocument d).regions.map fun r => (r.attempt (e r) o).1 := by
  simp [ofDocumentBy, ofExtractionBy, ofRegions, Function.comp_def]

theorem calls_ofDocumentBy :
    (ofDocumentBy e o d).trace.calls = (Extraction.ofDocument d).regions.filterMap Region.call? := by
  show [] ++ (ofRegions e o (Extraction.ofDocument d).regions).trace.calls = _
  simp [ofRegions, List.flatMap_map, Region.calls_attempt, List.filterMap_eq_flatMap_toList]

theorem forall₂_asks {regions : List Region} (h : ∀ r ∈ regions, r ∈ (Extraction.ofDocument d).regions) :
    List.Forall₂ (Region.Asks d) (regions.filter Region.hasWork) (regions.filterMap Region.call?) := by
  induction regions with
  | nil => exact .nil
  | cons r more ih =>
    obtain ⟨hr, hmore⟩ := List.forall_mem_cons.1 h
    have hwork := r.isSome_call?
    cases hcall : r.call? with
    | none =>
      rw [hcall, Option.isSome_none] at hwork
      rw [List.filter_cons_of_neg (by simp [← hwork]), List.filterMap_cons_none hcall]
      exact ih hmore
    | some c =>
      rw [hcall, Option.isSome_some] at hwork
      rw [List.filter_cons_of_pos hwork.symm, List.filterMap_cons_some hcall]
      exact .cons ((Region.asks_iff hr).2 hcall) (ih hmore)

/-- The regions attempted one after the other by engines that know the calls made before. -/
def inTurn (memory : List Call → Engines) (o : Options) (past : List Call) : List Region → List (Outcome × Trace)
  | [] => []
  | r :: more =>
    let done := r.attempt (memory past) o
    done :: inTurn memory o (past ++ done.2.calls) more

def callsBefore (d : Document) (r : Region) : List Call :=
  ((Extraction.ofDocument d).regions.takeWhile (·.span.first < r.span.first)).filterMap Region.call?

/-- Engines with a memory answer each region in a way of its own, and no answer has a part in it. -/
theorem inTurn_eq (memory : List Call → Engines) :
    inTurn memory o [] (Extraction.ofDocument d).regions =
      (Extraction.ofDocument d).regions.map fun r => r.attempt (memory (callsBefore d r)) o := by
  suffices h : ∀ front behind, (Extraction.ofDocument d).regions = front ++ behind →
      inTurn memory o (front.filterMap Region.call?) behind =
        behind.map fun r => r.attempt (memory (callsBefore d r)) o from h [] _ rfl
  -- what is remembered at a region are the calls for the regions in front of it
  intro front behind hregions
  induction behind generalizing front with
  | nil => rfl
  | cons r more ih =>
    have hp := hregions ▸ Extraction.pairwise_regions d
    have hbefore : callsBefore d r = front.filterMap Region.call? := by
      have hfront : ∀ s ∈ front, decide (s.span.first < r.span.first) = true := fun s hs => by
        have := (List.pairwise_append.1 hp).2.2 s hs r (List.mem_cons_self ..)
        have := s.span.first_le_last
        exact decide_eq_true (by omega)
      have hself : (r :: more).takeWhile (·.span.first < r.span.first) = [] := List.takeWhile_cons_of_neg (by simp)
      rw [callsBefore, hregions, List.takeWhile_append_of_pos hfront, hself, List.append_nil]
    have hcalls : front.filterMap Region.call? ++ r.call?.toList = (front ++ [r]).filterMap Region.call? := by
      cases hcall : r.call? <;> simp [hcall]
    rw [inTurn, List.map_cons, hbefore, Region.calls_attempt, hcalls, ih (front ++ [r]) (by rw [hregions]; simp)]

/-- Whatever two sets of engines answer, a pass makes the same calls with both: one for each region with work to do, in
the order of the document, about the region's part of the document. There is an outcome for each region, which is the
same with both where they answer the call of that region alike, and which is a failure exactly where that call brings no
text. -/
theorem calls_isolated :
    ((Extraction.ofDocument d).regions.Pairwise fun r s => r.span.last < s.span.first) ∧
    List.Forall₂ (Region.Asks d) ((Extraction.ofDocument d).regions.filter Region.hasWork)
      (ofDocumentBy e o d).trace.calls ∧
    (ofDocumentBy e' o d).trace.calls = (ofDocumentBy e o d).trace.calls ∧
    (ofDocumentBy e o d).outcomes.map Outcome.region = (Extraction.ofDocument d).regions ∧
    ∀ (i : Nat) r, (Extraction.ofDocument d).regions[i]? = some r →
      ∃ outcome : Outcome, (ofDocumentBy e o d).outcomes[i]? = some outcome ∧
        ((∀ c, r.Asks d c → ((e r).run o c).output? = ((e' r).run o c).output?) →
          (ofDocumentBy e' o d).outcomes[i]? = some outcome) ∧
        (outcome.status = .failed ↔ ∃ c, r.Asks d c ∧ ((e r).run o c).output? = none) := by
  refine ⟨Extraction.pairwise_regions d, ?_, ?_, ?_, fun i r hi => ?_⟩
  · rw [calls_ofDocumentBy]
    exact forall₂_asks d fun r hr => hr
  · rw [calls_ofDocumentBy, calls_ofDocumentBy]
  · rw [outcomes_ofDocumentBy, List.map_map]
    refine (List.map_congr_left fun r hr => ?_).trans (List.map_id _)
    obtain ⟨hs, before, after, hf⟩ := sound_of_mem d hr
    exact Region.region_attempt hf hs.plain (e r) o
  · have hr := List.mem_of_getElem? hi
    obtain ⟨hs, before, after, hf⟩ := sound_of_mem d hr
    refine ⟨(r.attempt (e r) o).1, by rw [outcomes_ofDocumentBy, List.getElem?_map, hi]; rfl, fun halike => ?_, ?_⟩
    · rw [outcomes_ofDocumentBy, List.getElem?_map, hi, Option.map_some,
        Region.fst_attempt_congr fun c hc => halike c ((Region.asks_iff hr).2 hc)]
    · simp only [Region.status_attempt hf hs.plain, Region.asks_iff hr]

end Pass

end ComponentFormat
