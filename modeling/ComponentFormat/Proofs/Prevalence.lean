import ComponentFormat.Proofs.Passes
import ComponentFormat.Proofs.Settling

/-! # The terminators after a pass

A pass takes away the terminators of the texts that it replaces and puts in terminators of one kind, the one that
prevails in the document. No other terminator is lost or made, so the kind that prevails can change only where the texts
that are replaced hold what has made it prevail (`Pass.terminator_kept`).
-/
namespace ComponentFormat

namespace Terminator

/-- The terminator that stands in the list more often than each of the others; a line feed when there is none. -/
def prevailing (ends : List Terminator) : Terminator :=
  (all.find? fun e => all.all fun d => d == e || ends.count d < ends.count e).getD .lf

/-- The terminators `new` are the terminators `old` without `out` and with some more of `e`. -/
def Traded (e : Terminator) (old out new : List Terminator) : Prop :=
  ∃ rest n, old.Perm (rest ++ out) ∧ new.Perm (rest ++ List.replicate n e)

variable {e : Terminator} {old out new : List Terminator}

theorem traded_self (e : Terminator) (ends : List Terminator) : Traded e ends [] ends :=
  ⟨ends, 0, by simp, by simp⟩

theorem traded_all (e : Terminator) (n : Nat) (ends : List Terminator) :
    Traded e ends ends (List.replicate n e) :=
  ⟨[], n, .refl _, .refl _⟩

theorem perm_crossed (a b a' b' : List Terminator) : (a ++ b ++ (a' ++ b')).Perm (a ++ a' ++ (b ++ b')) :=
  List.perm_iff_count.2 fun f => by
    simp only [List.count_append]
    omega

theorem Traded.append {old' out' new' : List Terminator} (h : Traded e old out new) (h' : Traded e old' out' new') :
    Traded e (old ++ old') (out ++ out') (new ++ new') := by
  obtain ⟨rest, n, hold, hnew⟩ := h
  obtain ⟨rest', n', hold', hnew'⟩ := h'
  refine ⟨rest ++ rest', n + n', (hold.append hold').trans ?_, (hnew.append hnew').trans ?_⟩
  · exact perm_crossed rest out rest' out'
  · rw [← List.replicate_append_replicate]
    exact perm_crossed ..

theorem Traded.between (front behind : List Terminator) (h : Traded e old out new) :
    Traded e (front ++ old ++ behind) out (front ++ new ++ behind) := by
  simpa using ((traded_self e front).append h).append (traded_self e behind)

theorem Traded.uniform (h : Traded e old out new) (hold : ∀ f ∈ old, f = e) : ∀ f ∈ new, f = e := by
  obtain ⟨rest, n, hrest, hnew⟩ := h
  intro f hf
  rcases List.mem_append.1 (hnew.mem_iff.1 hf) with hf | hf
  · exact hold f (hrest.mem_iff.2 (List.mem_append_left _ hf))
  · exact List.eq_of_mem_replicate hf

theorem prevailing_of_perm (h : old.Perm new) : prevailing old = prevailing new := by
  simp only [prevailing, h.count_eq]

/-- What prevails stands more often than the others, but for a line feed, which prevails where nothing does. -/
theorem prevailing_cases (ends : List Terminator) :
    (∀ f ≠ prevailing ends, ends.count f < ends.count (prevailing ends)) ∨
      prevailing ends = .lf ∧ ∀ e, ∃ f ≠ e, ends.count e ≤ ends.count f := by
  have hall (e : Terminator) : e ∈ all := by cases e <;> decide
  unfold prevailing
  cases hfind : all.find? fun e => all.all fun d => d == e || ends.count d < ends.count e with
  | some e =>
    left
    have hwins := List.find?_some hfind
    intro f hf
    have hwin := List.all_eq_true.1 hwins f (hall f)
    simp only [Bool.or_eq_true, beq_iff_eq, decide_eq_true_eq] at hwin
    exact hwin.resolve_left hf
  | none =>
    right
    refine ⟨rfl, fun e => ?_⟩
    have hloses := List.find?_eq_none.1 hfind e (hall e)
    simpa [hall] using hloses

theorem prevailing_append_replicate (ends : List Terminator) (n : Nat) :
    prevailing (ends ++ List.replicate n (prevailing ends)) = prevailing ends := by
  have hother (f : Terminator) (hf : f ≠ prevailing ends) :
      (ends ++ List.replicate n (prevailing ends)).count f = ends.count f := by
    simp [List.count_append, List.count_replicate, hf.symm]
  have hmore (f : Terminator) : ends.count f ≤ (ends ++ List.replicate n (prevailing ends)).count f := by
    simp [List.count_append]
  by_contra hne
  rcases prevailing_cases (ends ++ List.replicate n (prevailing ends)) with hwins | ⟨hfeed, hnone⟩
  · -- what prevails with more of another kind has prevailed before
    have hcount := hother _ hne
    rcases prevailing_cases ends with hold | ⟨-, hnone⟩
    · have := hold _ hne
      have := hwins _ (Ne.symm hne)
      have := hmore (prevailing ends)
      omega
    · obtain ⟨f, hf, hle⟩ := hnone (prevailing (ends ++ List.replicate n (prevailing ends)))
      have := hwins f hf
      have := hmore f
      omega
  · rcases prevailing_cases ends with hold | ⟨hfeed', -⟩
    · obtain ⟨f, hf, hle⟩ := hnone (prevailing ends)
      have := hold f hf
      have := hother f hf
      have := hmore (prevailing ends)
      omega
    · exact hne (hfeed.trans hfeed'.symm)

end Terminator

namespace Text

/-- The text starts and ends in characters of no terminator, so that no terminator reaches over its ends. -/
structure Sealed (t : Text) : Prop where
  first : ∃ c ∈ t.head?, isBreak c = false
  last : ∃ c ∈ t.getLast?, isBreak c = false

theorem Tight.sealed {t : Text} (h : t.Tight) : t.Sealed where
  first := let ⟨c, hc, hb⟩ := h.first; ⟨c, hc, isBreak_of_solid hb⟩
  last := let ⟨c, hc, hb⟩ := h.last; ⟨c, hc, isBreak_of_solid hb⟩

theorem Bracketed.sealed {t : Text} (h : t.Bracketed) : t.Sealed where
  first := ⟨'<', by simpa using h.head? [], by decide⟩
  last := ⟨'>', by simpa using h.getLast? [], by decide⟩

theorem Sealed.around {t u v : Text} (h : t.Sealed) (hu : ¬u.HasBreak) (hv : ¬v.HasBreak) :
    (u ++ t ++ v).Sealed := by
  obtain ⟨⟨c, hc, hcb⟩, d, hd, hdb⟩ := h
  constructor
  · rcases u with _ | ⟨b, u⟩
    · exact ⟨c, by simp [List.head?_append, Option.mem_def.1 hc], hcb⟩
    · exact ⟨b, rfl, Bool.eq_false_iff.2 fun hb => hu (hasBreak_cons.2 (.inl hb))⟩
  · rcases List.eq_nil_or_concat v with rfl | ⟨v, b, rfl⟩
    · exact ⟨d, by simp [List.getLast?_append, Option.mem_def.1 hd], hdb⟩
    · exact ⟨b, by simp, Bool.eq_false_iff.2 fun hb => hv ⟨b, by simp, hb⟩⟩

/-- Between line breaks, a reflowed text keeps the breaks inside a part with solid ends. -/
theorem Reflowed.hasBreak_of_bracketed {u s v t : Text}
    (h : Reflowed ('\n' :: (u ++ s ++ v ++ ['\n'])) ('\n' :: (t ++ ['\n']))) (hs : s.Bracketed)
    (hbreak : s.HasBreak) : t.HasBreak := by
  have hcut : '\n' :: (u ++ s ++ v ++ ['\n']) = ('\n' :: u) ++ (s ++ (v ++ ['\n'])) := by simp
  rw [hcut] at h
  obtain ⟨u', w, hw, hu, h⟩ := h.split (firm_of_head (hs.head? _) (by decide) _)
  obtain ⟨s', v', rfl, hs', hv⟩ := h.split (firm_of_getLast (by simpa using hs.getLast? []) (by decide) _)
  obtain ⟨c, u', rfl⟩ := List.exists_cons_of_ne_nil (hu.ne_nil (by simp))
  obtain ⟨-, hw⟩ := List.cons.inj hw
  rcases List.eq_nil_or_concat v' with rfl | ⟨v', d, rfl⟩
  · exact absurd rfl (hv.ne_nil (by simp))
  have ht : t ++ ['\n'] = (u' ++ s' ++ v') ++ [d] := by simp [hw]
  obtain ⟨rfl, -⟩ := List.append_inj' ht rfl
  simp [hs'.hasBreak_iff.1 hbreak]

end Text

/-- What an edit makes of the lines of a region: no terminator reaches over the ends of the text, there is still a
terminator in it, and its terminators are those of the lines but for the payload's, and some of the document's kind. -/
structure Region.Trades (d : Document) (r : Region) (text : Text) : Prop where
  sealed : text.Sealed
  broken : r.full.HasBreak → text.HasBreak
  traded : Terminator.Traded d.terminator (Lines.ofText r.full).terminators (Lines.ofText r.payload).terminators
    (Lines.ofText text).terminators

section
variable {d : Document} {kind : RegionKind} {b : Placed} {x y : Text} {o : Options}

theorem Region.sealed_full (h : b.Sits x y d.text) : (ofBlock d kind b).full.Sealed := by
  rw [ofBlock_full kind h]
  exact h.delimited.source.sealed.around (Text.not_hasBreak_lastLine x) (Text.not_hasBreak_firstLine y)

theorem Text.Uses.exists_replicate {e : Terminator} {t : Text} (h : t.Uses e) :
    ∃ n, (Lines.ofText t).terminators = List.replicate n e :=
  ⟨_, List.eq_replicate_iff.2 ⟨rfl, h⟩⟩

theorem Text.uses_trimEnd {e : Terminator} {t : Text} (h : t.Uses e) :
    (trimEnd (fun c => c == '\r' || c == '\n') t).Uses e := by
  obtain ⟨q, hq, -, hlast⟩ := exists_trimEnd (fun c => c == '\r' || c == '\n') t
  have hseam : Seam (trimEnd (fun c => c == '\r' || c == '\n') t) q := fun hmeet => by
    have := hlast '\r' hmeet.1
    cases this
  rw [hq, uses_append hseam] at h
  exact h.1

theorem Region.closing_bracketed (h : b.Sits x y d.text) {e : Engines} {out : Text}
    (hout : (ofBlock d kind b).answer? e o = some out) : b.block.closing.Bracketed := by
  rcases h.delimited.closing with hc | ⟨hn, -⟩
  · exact hc
  · have hblank : Text.isAllBlank b.block.content = false := (exists_run_of_answer? hout).1
    simp [hn, Text.isAllBlank] at hblank

theorem Region.traded_content (h : b.Sits x y d.text) (hk : kind ≠ .markup) {e : Engines} {out : Text}
    (hout : (ofBlock d kind b).answer? e o = some out) :
    Terminator.Traded d.terminator (Lines.ofText (ofBlock d kind b).full).terminators
      (Lines.ofText (ofBlock d kind b).payload).terminators
      (Lines.ofText ((ofBlock d kind b).rebuilt (x.lastLine ++ b.block.opening) (b.block.closing ++ y.firstLine)
        out)).terminators := by
  -- the tags keep the terminators of what stands between them apart
  have hends (t : Text) :
      (Lines.ofText (x.lastLine ++ b.block.opening ++ t ++ (b.block.closing ++ y.firstLine))).terminators =
        (Lines.ofText (x.lastLine ++ b.block.opening)).terminators ++ (Lines.ofText t).terminators ++
          (Lines.ofText (b.block.closing ++ y.firstLine)).terminators := by
    rw [Text.terminators_append (Text.seam_of_head ((closing_bracketed h hout).head? _) (by decide)),
      Text.terminators_append (Text.seam_of_getLast (h.delimited.opening.getLast? _) (by decide))]
  obtain ⟨n, huses⟩ := (Text.uses_withTerminator d.terminator ('\n' :: out)).exists_replicate
  have hterm : (ofBlock d kind b).terminator = d.terminator.text := rfl
  have hfull : (ofBlock d kind b).full = x.lastLine ++ b.block.opening ++ b.block.content ++
      (b.block.closing ++ y.firstLine) := (ofBlock_frames kind h).full
  rw [rebuilt_content hk, hterm, hends, huses, payload_content hk, hfull, hends]
  exact (Terminator.traded_all _ n _).between _ _

theorem Region.traded_lines (hk : kind = .markup) (before after out : Text) :
    Terminator.Traded d.terminator (Lines.ofText (ofBlock d kind b).full).terminators
      (Lines.ofText (ofBlock d kind b).payload).terminators
      (Lines.ofText ((ofBlock d kind b).rebuilt before after out)).terminators := by
  obtain ⟨n, huses⟩ := (Text.uses_trimEnd (Text.uses_withTerminator d.terminator out)).exists_replicate
  have hterm : (ofBlock d kind b).terminator = d.terminator.text := rfl
  rw [rebuilt_lines hk, hterm, huses, payload_lines hk]
  exact Terminator.traded_all ..

/-- Whatever an engine answers, its edit trades the terminators of the payload for some of the document's kind. -/
theorem Region.traded (h : b.Sits x y d.text) {e : Engines} {edit : Edit}
    (hedit : ((ofBlock d kind b).attempt e o).1.edit? = some edit) :
    Terminator.Traded d.terminator (Lines.ofText (ofBlock d kind b).full).terminators
      (Lines.ofText (ofBlock d kind b).payload).terminators (Lines.ofText edit.text).terminators := by
  obtain ⟨out, hout, -, rfl⟩ := exists_answer_of_edit? (ofBlock_frames kind h) (Terminator.backslash_not_mem _) hedit
  by_cases hk : kind = .markup
  · exact traded_lines hk ..
  · exact traded_content h hk hout

theorem Region.trades_content (h : b.Sits x y d.text) (hk : kind ≠ .markup) {out : Text}
    (hout : (ofBlock d kind b).answer? Reindent.engines o = some out) : (ofBlock d kind b).Trades d
      ((ofBlock d kind b).rebuilt (x.lastLine ++ b.block.opening) (b.block.closing ++ y.firstLine) out) := by
  have hbreak := (Text.reflowed_withTerminator d.terminator ('\n' :: out)).hasBreak_iff.1
    (Text.hasBreak_cons.2 (.inl (by decide)))
  have hterm : (ofBlock d kind b).terminator = d.terminator.text := rfl
  refine ⟨?_, fun _ => ?_, traded_content h hk hout⟩
  · have hblock := (h.delimited.opening.append (Text.withTerminator d.terminator.text ('\n' :: out))
      (closing_bracketed h hout)).sealed
    rw [rebuilt_content hk, hterm]
    simpa only [List.append_assoc] using
      hblock.around (Text.not_hasBreak_lastLine x) (Text.not_hasBreak_firstLine y)
  · rw [rebuilt_content hk, hterm]
    simp only [Text.hasBreak_append, hbreak, or_true, true_or]

theorem Region.trades_lines (h : b.Sits x y d.text) (hk : kind = .markup) {out : Text}
    (hout : (ofBlock d kind b).answer? Reindent.engines o = some out) : (ofBlock d kind b).Trades d
      ((ofBlock d kind b).rebuilt (x.lastLine ++ b.block.opening) (b.block.closing ++ y.firstLine) out) := by
  have hpayload : (ofBlock d kind b).payload = (ofBlock d kind b).full := payload_lines hk
  have hfull := ofBlock_full kind h
  have hsome : ¬(ofBlock d kind b).full.Blank := by
    obtain ⟨m, hm⟩ := h.delimited.source
    intro hblank
    have := hblank '<' (by simp [hfull, hm])
    cases this
  obtain ⟨-, parser, -, hrun⟩ := exists_run_of_answer? hout
  have hrun : Reindent.engines.run o (Call.to .markup parser (ofBlock d kind b).full) = .text out := by
    have hfamily : (Handler.forKind (ofBlock d kind b).kind).family = .markup := by
      show (Handler.forKind kind).family = .markup
      rw [hk]
      rfl
    rwa [hfamily, hpayload] at hrun
  obtain ⟨-, htight, -, hflow⟩ := Reindent.written_lines (e := d.terminator) hsome hrun
  have hterm : (ofBlock d kind b).terminator = d.terminator.text := rfl
  refine ⟨?_, fun hbreak => ?_, traded_lines hk ..⟩
  · rw [rebuilt_lines hk, hterm]
    exact htight.sealed
  · rw [rebuilt_lines hk, hterm]
    rw [hfull] at hflow hbreak
    have hsource : b.block.source.HasBreak := by
      simpa only [Text.hasBreak_append, Text.not_hasBreak_lastLine, Text.not_hasBreak_firstLine, or_false, false_or]
        using hbreak
    exact hflow.hasBreak_of_bracketed h.delimited.source hsource

theorem Region.trades (h : b.Sits x y d.text) {edit : Edit}
    (hedit : ((ofBlock d kind b).attempt Reindent.engines o).1.edit? = some edit) :
    (ofBlock d kind b).Trades d edit.text := by
  obtain ⟨out, hout, -, rfl⟩ := exists_answer_of_edit? (ofBlock_frames kind h) (Terminator.backslash_not_mem _) hedit
  by_cases hk : kind = .markup
  · exact trades_lines h hk hout
  · exact trades_content h hk hout

end

section
variable {d : Document} {edit? : Region → Option Edit}

/-- The terminators that go when the regions with an edit are edited. -/
def Region.replaced (edit? : Region → Option Edit) (rs : List Region) : List Terminator :=
  (rs.filter fun r => (edit? r).isSome).flatMap fun r => (Lines.ofText r.payload).terminators

/-- From one edit to the next the terminators are kept, and those of a region are traded where it is edited. -/
theorem Document.Rewrites.trades {rs : List Region} {front old new : Text}
    (h : d.Rewrites front.length (rs.filterMap edit?) old new) (ht : d.text = front ++ old)
    (hall : ∀ r ∈ rs, ∀ edit, edit? r = some edit →
      d.wholeLines edit.span.first edit.span.last = .ok r.full ∧ r.full.Sealed ∧ r.Trades d edit.text) :
    (old.HasBreak → new.HasBreak) ∧ Terminator.Traded d.terminator (Lines.ofText old).terminators
      (Region.replaced edit? rs) (Lines.ofText new).terminators := by
  -- a region without an edit is no step of the rewriting: its lines are part of what is kept
  induction rs generalizing front old new with
  | nil =>
    cases h
    exact ⟨id, Terminator.traded_self ..⟩
  | cons r more ih =>
    obtain ⟨hr, hmore⟩ := List.forall_mem_cons.1 hall
    cases hedit : edit? r with
    | none =>
      rw [List.filterMap_cons_none hedit] at h
      rw [Region.replaced, List.filter_cons_of_neg (by simp [hedit])]
      exact ih h ht hmore
    | some edit =>
      rw [List.filterMap_cons_some hedit] at h
      rw [Region.replaced, List.filter_cons_of_pos (by simp [hedit]), List.flatMap_cons]
      obtain ⟨kept, lines, old, new, rfl, rfl, -, hlines, hrest, ht⟩ := h.exists_step ht
      obtain ⟨hfull, hsealed, htrades⟩ := hr edit hedit
      cases hfull.symm.trans hlines
      obtain ⟨hbreak, htraded⟩ := ih hrest ht hmore
      constructor
      · simp only [Text.hasBreak_append]
        exact Or.imp (Or.imp_right htrades.broken) hbreak
      · rw [Text.terminators_between hsealed.first hsealed.last,
          Text.terminators_between htrades.sealed.first htrades.sealed.last]
        have hfront := (Terminator.traded_self d.terminator (Lines.ofText kept).terminators).append htrades.traded
        exact hfront.append htraded

end

/-- A pass takes the terminators of what it replaces and puts in the one that prevails, which prevails in the new text
too if it prevails among those that are left, or if the document has no other. -/
theorem Pass.terminator_kept (o : Options) (d : Document) :
    ∃ t rest n, d.applyEdits (ofDocument Reindent.engines o d).edits = .ok t ∧
      d.lines.terminators.Perm (rest ++ Region.replaced (fun r => (r.attempt Reindent.engines o).1.edit?)
        (Extraction.ofDocument d).regions) ∧
      (Lines.ofText t).terminators.Perm (rest ++ List.replicate n d.terminator) ∧
      (Terminator.prevailing rest = d.terminator ∨ (∀ f ∈ d.lines.terminators, f = d.terminator) →
        (Document.mk d.path t).terminator = d.terminator) := by
  obtain ⟨t, ht, hrewrites⟩ := exists_rewrites (fun _ => Reindent.engines) o d
  rw [edits_ofDocumentBy, ← List.length_nil] at hrewrites
  have hregion : ∀ r ∈ (Extraction.ofDocument d).regions, ∀ edit,
      (r.attempt Reindent.engines o).1.edit? = some edit →
        d.wholeLines edit.span.first edit.span.last = .ok r.full ∧ r.full.Sealed ∧ r.Trades d edit.text := by
    intro r hr edit hedit
    have hspan := span_of_edit? o d hr hedit
    obtain ⟨c, p, x, y, -, -, hs, he⟩ := Extraction.exists_of_mem_regions hr
    have hfull := (Region.sound_ofBlock r.kind hs).full
    have hsealed : (Region.ofBlock d r.kind p).full.Sealed := Region.sealed_full hs
    rw [he] at hedit
    have htrades := Region.trades hs hedit
    rw [← he] at hfull hsealed htrades
    exact ⟨hspan ▸ hfull, hsealed, htrades⟩
  obtain ⟨hbreak, htraded⟩ := hrewrites.trades rfl hregion
  have ⟨rest, n, hold, hnew⟩ := htraded
  refine ⟨t, rest, n, ht, hold, hnew, ?_⟩
  rintro (hprevails | huniform)
  · calc (Document.mk d.path t).terminator = Terminator.prevailing (rest ++ List.replicate n d.terminator) :=
        Terminator.prevailing_of_perm hnew
      _ = d.terminator := by rw [← hprevails, Terminator.prevailing_append_replicate]
  · refine Document.terminator_eq (htraded.uniform huniform) ?_
    obtain ⟨-, hlf | hb⟩ := Document.uses_terminator (d := d) fun e he f hf =>
      (huniform e he).trans (huniform f hf).symm
    · exact .inl hlf
    · exact .inr (hbreak hb)

/-- Line feeds prevail here for the blank lines of the template only. -/
def Document.tipping : Document := .ofText "<template>\n\n\n<p>a</p>\n</template>\r\n\r\n\r\n".toList

/-- Where the blank lines go, another terminator prevails, and the next pass writes that one. -/
theorem Pass.terminator_tipped : Document.tipping.terminator = .lf ∧
    ∃ t, Document.tipping.applyEdits (ofDocument Reindent.engines .default Document.tipping).edits = .ok t ∧
      (Document.ofText t).terminator = .crlf ∧
      (ofDocument Reindent.engines .default (.ofText t)).edits.map Edit.text =
        ["<template>\r\n    <p>a</p>\r\n</template>".toList] := by
  have hboth : ((Document.tipping.applyEdits (ofDocument Reindent.engines .default Document.tipping).edits).toOption.map
      fun t => ((Document.ofText t).terminator,
        (ofDocument Reindent.engines .default (.ofText t)).edits.map Edit.text)) =
          some (.crlf, ["<template>\r\n    <p>a</p>\r\n</template>".toList]) := by decide +kernel
  obtain ⟨t, ht, h⟩ := Option.map_eq_some_iff.1 hboth
  obtain ⟨hterm, hedits⟩ := Prod.mk.inj h
  exact ⟨by decide +kernel, t, ok_of_toOption ht, hterm, hedits⟩

end ComponentFormat
