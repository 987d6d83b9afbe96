import ComponentFormat.Engine.Handler
import ComponentFormat.Proofs.Reflow
import ComponentFormat.Proofs.Reindenting

/-! # Re-indenting what is re-indented

What an engine makes of a text has the bare lines of the text, up to the quotes that it unifies, so on what is written
the same engine answers the same. Neither closing tags nor the characters between the blanks change.
-/
namespace ComponentFormat

/-- Where returns stand in front of feeds only, a bare line has none. -/
theorem Reindent.return_not_mem_bareLines {t : Text} (h : ∀ a b, t = a ++ '\r' :: b → b.head? = some '\n') :
    ∀ l ∈ bareLines t, '\r' ∉ l := by
  -- A line of the text has a return at its end only, where it is a blank that is dropped.
  have hline {l : Text} (hl : '\n' ∉ l) (rest : Text)
      (h : ∀ a b, l ++ '\n' :: rest = a ++ '\r' :: b → b.head? = some '\n') : ∀ m ∈ bareLines l, '\r' ∉ m := by
    have hlast {a b : Text} (he : l = a ++ '\r' :: b) : b = [] := by
      have := h a (b ++ '\n' :: rest) (by rw [he]; simp)
      cases b with
      | nil => rfl
      | cons c b =>
        cases this
        exact absurd (by simp [he]) hl
    intro m hm hr
    obtain ⟨a, b, rfl⟩ := List.append_of_mem ((of_mem_bareLines hm).2.2.subset hr)
    cases hlast rfl
    rw [bareLines_append_blank (by decide)] at hm
    obtain ⟨u, v, rfl⟩ := List.append_of_mem ((of_mem_bareLines hm).2.2.subset hr)
    have := hlast (a := u) (b := v ++ ['\r']) (by simp)
    simp at this
  induction t using Text.line_induction with
  | line t ht =>
    intro l hl hr
    obtain ⟨a, b, rfl⟩ := List.append_of_mem ((of_mem_bareLines hl).2.2.subset hr)
    have := List.mem_of_mem_head? (h a b rfl)
    exact ht (by simp [this])
  | step l t hl ih =>
    rw [bareLines_append]
    refine List.forall_mem_append.2 ⟨hline hl t h, ih fun a b he => ?_⟩
    exact h (l ++ '\n' :: a) b (by rw [he]; simp)

theorem Text.Uses.steady {e : Terminator} {t : Text} (h : t.Uses e) : Reindent.Steady e t := by
  cases e with
  | cr => exact h.not_mem_feed
  | lf =>
    rw [Reindent.Steady, if_neg (by decide)]
    exact fun l hl hr => h.not_mem_return ((Reindent.of_mem_bareLines hl).2.2.subset hr)
  | crlf =>
    rw [Reindent.Steady, if_neg (by decide)]
    exact Reindent.return_not_mem_bareLines fun a b he => h.head?_behind_return he

namespace Reindent
open Text (Reflowed Tight strip)

theorem Indent.indented_lead {i : Indent} (hblank : isBlank i.char = true) (hbreak : isBreak i.char = false)
    (depth : Nat) : Text.Blank (i.lead depth) ∧ ¬Text.HasBreak (i.lead depth) := by
  have hchar : ∀ c ∈ i.lead depth, c = i.char := fun c hc => List.eq_of_mem_replicate hc
  refine ⟨fun c hc => by rw [hchar c hc, hblank], ?_⟩
  rintro ⟨c, hc, hb⟩
  rw [hchar c hc, hbreak] at hb
  cases hb

theorem Indent.lead_zero (i : Indent) : i.lead 0 = [] := by simp [lead]

theorem indented_byBraces {i : Indent} (hblank : isBlank i.char = true) (hbreak : isBreak i.char = false)
    (depth : Nat) (ls : List Text) : Indented ls (byBraces i depth ls) := by
  induction ls generalizing depth with
  | nil => exact .nil
  | cons l more ih =>
    obtain ⟨hb, hn⟩ := i.indented_lead hblank hbreak (if l.head? = some '}' then depth - 1 else depth)
    exact .cons ⟨_, hb, hn, rfl⟩ (ih _)

theorem indented_byElements {i : Indent} (hblank : isBlank i.char = true) (hbreak : isBreak i.char = false)
    (depth : Nat) (ls : List Text) : Indented ls (byElements i depth ls) := by
  induction ls generalizing depth with
  | nil => exact .nil
  | cons l more ih =>
    have hlead (d : Nat) := i.indented_lead hblank hbreak d
    rw [byElements]
    split
    · exact .cons ⟨_, (hlead _).1, (hlead _).2, rfl⟩ (ih _)
    · exact .cons ⟨_, (hlead _).1, (hlead _).2, rfl⟩ (ih _)

theorem byBraces_cons (i : Indent) (l : Text) (ls : List Text) :
    byBraces i 0 (l :: ls) = l :: byBraces i (depthAfter 0 l) ls := by
  simp [byBraces, i.lead_zero]

theorem byElements_cons (i : Indent) (l : Text) (ls : List Text) :
    ∃ depth, byElements i 0 (l :: ls) = l :: byElements i depth ls := by
  rw [byElements]
  split
  · exact ⟨_, by rw [Nat.zero_sub, i.lead_zero]; rfl⟩
  · exact ⟨_, by rw [i.lead_zero]; rfl⟩

def quoted (single : Bool) (c : Char) : Char :=
  if single then (if c = '"' then '\'' else c) else (if c = '\'' then '"' else c)

theorem unifyQuotes_eq (single : Bool) (l : Text) : unifyQuotes single l = l.map (quoted single) := rfl

/-- Only quotes are changed, and into quotes. -/
theorem quoted_cases (single : Bool) (c : Char) :
    quoted single c = c ∨ (c = '"' ∨ c = '\'') ∧ (quoted single c = '"' ∨ quoted single c = '\'') := by
  unfold quoted
  split <;> split <;> simp_all

theorem quoted_quoted (single : Bool) (c : Char) : quoted single (quoted single c) = quoted single c := by
  unfold quoted
  cases single <;> simp only [if_true, Bool.false_eq_true, if_false] <;> split <;> simp_all

theorem quoted_eq_iff {single : Bool} {c d : Char} (hd : d ≠ '"') (hd' : d ≠ '\'') :
    quoted single c = d ↔ c = d := by
  rcases quoted_cases single c with h | ⟨h, h'⟩
  · rw [h]
  · constructor
    · rintro rfl
      rcases h' with h' | h'
      · exact absurd h' hd
      · exact absurd h' hd'
    · rintro rfl
      rcases h with h | h
      · exact absurd h hd
      · exact absurd h hd'

theorem isBlank_quoted (single : Bool) (c : Char) : isBlank (quoted single c) = isBlank c := by
  rcases quoted_cases single c with h | ⟨h, h'⟩
  · rw [h]
  · rcases h with rfl | rfl <;> rcases h' with h' | h' <;> rw [h'] <;> decide

theorem quoted_of_blank (single : Bool) {c : Char} (h : isBlank c = true) : quoted single c = c := by
  rcases quoted_cases single c with hq | ⟨rfl | rfl, -⟩
  · exact hq
  · cases h
  · cases h

theorem strip_quoted (single : Bool) (t : Text) : strip (t.map (quoted single)) = (strip t).map (quoted single) := by
  have hblank : isBlank ∘ quoted single = isBlank := funext (isBlank_quoted single)
  simp only [strip, Text.trimEnd, List.dropWhile_map, hblank, ← List.map_reverse]

theorem splitAt_quoted (single : Bool) (t : Text) :
    Text.splitAt isLineFeed (t.map (quoted single)) = (Text.splitAt isLineFeed t).map (List.map (quoted single)) := by
  induction t with
  | nil => rfl
  | cons c t ih =>
    have hfeed : isLineFeed (quoted single c) = isLineFeed c := by
      rw [isLineFeed, isLineFeed, Bool.eq_iff_iff, beq_iff_eq, beq_iff_eq, quoted_eq_iff (by decide) (by decide)]
    rw [List.map_cons, Text.splitAt, Text.splitAt, hfeed, ih]
    split
    · rfl
    · cases Text.splitAt isLineFeed t <;> rfl

theorem bareLines_quoted (single : Bool) (t : Text) :
    bareLines (t.map (quoted single)) = (bareLines t).map (unifyQuotes single) := by
  have hempty : (fun l : Text => !l.isEmpty) ∘ List.map (quoted single) = fun l : Text => !l.isEmpty := by
    funext l
    simp
  have hstrip : Text.strip ∘ List.map (quoted single) = List.map (quoted single) ∘ Text.strip :=
    funext (strip_quoted single)
  rw [bareLines, splitAt_quoted, List.map_map, hstrip, ← List.map_map, List.filter_map, hempty, ← bareLines]
  rfl

theorem byBraces_quoted {i : Indent} (hblank : isBlank i.char = true) (single : Bool) (depth : Nat)
    (ls : List Text) :
    byBraces i depth (ls.map (unifyQuotes single)) = (byBraces i depth ls).map (unifyQuotes single) := by
  have hcount {d : Char} (hd : d ≠ '"') (hd' : d ≠ '\'') (l : Text) :
      (unifyQuotes single l).count d = l.count d := by
    rw [unifyQuotes_eq, List.count_eq_countP, List.count_eq_countP, List.countP_map]
    refine List.countP_congr fun c _ => ?_
    simp [quoted_eq_iff hd hd']
  have hhead (l : Text) : (unifyQuotes single l).head? = some '}' ↔ l.head? = some '}' := by
    cases l with
    | nil => rfl
    | cons c l => simp [unifyQuotes_eq, quoted_eq_iff]
  have hlead (d : Nat) (l : Text) : unifyQuotes single (i.lead d ++ l) = i.lead d ++ unifyQuotes single l := by
    rw [unifyQuotes_eq, List.map_append, Indent.lead, List.map_replicate, quoted_of_blank single hblank]
    rfl
  induction ls generalizing depth with
  | nil => rfl
  | cons l more ih =>
    have hdepth (d : Nat) : depthAfter d (unifyQuotes single l) = depthAfter d l := by
      have hopen := hcount (d := '{') (by decide) (by decide) l
      have hclose := hcount (d := '}') (by decide) (by decide) l
      simp only [depthAfter, hopen, hclose, hhead]
    rw [List.map_cons, byBraces, byBraces, List.map_cons, hlead, ih]
    simp only [hhead, hdepth]

end Reindent

namespace ClosingTag
open Reindent (quoted quoted_eq_iff)

theorem exists_of_map_quoted {single : Bool} {v x y : Text} (h : v.map (quoted single) = x ++ y)
    (hx : ∀ c ∈ x, c ≠ '"' ∧ c ≠ '\'') : ∃ y', v = x ++ y' ∧ y = y'.map (quoted single) := by
  induction x generalizing v with
  | nil => exact ⟨v, rfl, h.symm⟩
  | cons d x ih =>
    obtain ⟨⟨hd, hd'⟩, hx⟩ := List.forall_mem_cons.1 hx
    obtain ⟨c, v, rfl, hc, hv⟩ := List.map_eq_cons_iff.1 h
    obtain ⟨y', rfl, hy⟩ := ih hv hx
    exact ⟨y', by rw [(quoted_eq_iff hd hd').1 hc]; rfl, hy⟩

/-- A closing tag of a plain name holds no quote. -/
theorem Closes.not_quote {name u : Text} (h : Closes name u) (hname : ∀ c ∈ name, isPlainNameChar c = true) :
    ∀ c ∈ u, c ≠ '"' ∧ c ≠ '\'' := by
  obtain ⟨w, gap, hw, hgap, rfl⟩ := h
  simp only [List.forall_mem_cons, List.forall_mem_append]
  refine ⟨by decide, by decide, ⟨fun c hc => ?_, fun c hc => ?_⟩, by decide, by simp⟩
  · have := ((hw.matches_of_plain hname).clean c hc).2
    simp only [marks, List.mem_cons, not_or] at this
    exact ⟨this.2.2.1, this.2.2.2.1⟩
  · have := hgap c hc
    constructor <;> (rintro rfl; cases this)

/-- Unifying quotes makes no closing tag. -/
theorem Free.quoted {name t : Text} (h : Free name t) (single : Bool) (hname : ∀ c ∈ name, isPlainNameChar c = true) :
    Free name (t.map (Reindent.quoted single)) := by
  intro a u b hu hab
  rw [List.append_assoc] at hab
  obtain ⟨a', v, rfl, -, hv⟩ := List.map_eq_append_iff.1 hab
  obtain ⟨b', rfl, -⟩ := exists_of_map_quoted hv (hu.not_quote hname)
  exact h a' u b' hu (List.append_assoc ..).symm

theorem Free.between {name t : Text} (h : Free name t) : Free name ('\n' :: (t ++ ['\n'])) := by
  rintro a u b ⟨w, gap, hw, hgap, rfl⟩ hab
  rcases List.eq_nil_or_concat b with rfl | ⟨b, c, rfl⟩
  · have := congrArg List.getLast? hab
    simp only [List.append_nil, ← List.cons_append, ← List.append_assoc, List.getLast?_concat] at this
    cases this
  cases a with
  | nil => simp at hab
  | cons d a =>
    have hinner : t ++ ['\n'] = a ++ '<' :: '/' :: (w ++ gap ++ ['>']) ++ b ++ [c] := by
      rw [(List.cons.inj hab).2]
      simp
    exact h a _ b ⟨w, gap, hw, hgap, rfl⟩ (List.append_inj' hinner rfl).1

end ClosingTag

namespace Reindent

theorem Indent.ofOptions_char (o : Options) :
    isBlank (Indent.ofOptions o).char = true ∧ isBreak (Indent.ofOptions o).char = false := by
  rw [Indent.ofOptions]
  split
  · exact ⟨rfl, rfl⟩
  · exact ⟨rfl, rfl⟩

theorem Indented.exists_last {ls ls' : List Text} (h : Indented ls ls') (htight : ∀ l ∈ ls, l.Tight) (hne : ls ≠ []) :
    ∃ u c, joined ls' = u ++ [c] ∧ isBlank c = false := by
  induction h with
  | nil => exact absurd rfl hne
  | @cons l l' ls ls' hl hmore ih =>
    obtain ⟨lead, -, -, rfl⟩ := hl
    obtain ⟨hl, hls⟩ := List.forall_mem_cons.1 htight
    cases hmore with
    | nil =>
      obtain ⟨c, hc, hb⟩ := hl.last
      obtain ⟨u, rfl⟩ := List.getLast?_eq_some_iff.1 hc
      exact ⟨lead ++ u, c, by simp [joined, Text.join], hb⟩
    | cons hm hmore =>
      obtain ⟨u, c, hu, hb⟩ := ih hls (by simp)
      exact ⟨lead ++ l ++ '\n' :: u, c, by rw [joined_cons _ (by simp), hu]; simp, hb⟩

theorem Indented.solid_last {ls ls' : List Text} (h : Indented ls ls') (htight : ∀ l ∈ ls, l.Tight) :
    ∀ c ∈ (joined ls').getLast?, isBlank c = false := by
  intro c hc
  by_cases hne : ls = []
  · subst hne
    cases h
    cases hc
  · obtain ⟨u, d, hu, hd⟩ := h.exists_last htight hne
    rw [hu, List.getLast?_concat] at hc
    cases hc
    exact hd

theorem withTerminator_break {t : Text} (h : ∀ c ∈ t.getLast?, isBlank c = false) (e : Terminator) :
    Text.withTerminator e.text (t ++ ['\n']) = Text.withTerminator e.text t ++ e.text := by
  have hseam : Text.Seam t ['\n'] := by
    rintro ⟨hr, -⟩
    have := h _ hr
    cases this
  rw [Text.withTerminator_append hseam, Text.withTerminator_cons_feed]
  simp [Text.withTerminator, Lines.ofText, Lines.renderWith, Lines.renderBy]

/-- What is put in the place of a content has its bare lines and is a reflowed version of it between breaks. -/
theorem bareLines_spliced {e : Terminator} {t : Text} {ls : List Text} (hs : Steady e t) (h : Indented (bareLines t) ls)
    (hsingle : (bareLines t).length ≤ 1 → ls = bareLines t) :
    bareLines (Text.withTerminator e.text ('\n' :: (joined ls ++ ['\n']))) = bareLines t ∧
      Text.Reflowed ('\n' :: (t ++ ['\n'])) (Text.withTerminator e.text ('\n' :: (joined ls ++ ['\n']))) := by
  constructor
  · have hlast := h.solid_last fun l hl => (of_mem_bareLines hl).1
    rw [Text.withTerminator_cons_feed, withTerminator_break hlast, bareLines_blank_append e.blank_text,
      bareLines_append_blank e.blank_text]
    exact bareLines_written hs h hsingle
  · exact ((reflowed_lined t).trans h.reflowed).trans (Text.reflowed_withTerminator e _)

theorem byBraces_single (i : Indent) {ls : List Text} (h : ls.length ≤ 1) : byBraces i 0 ls = ls := by
  match ls, h with
  | [], _ => rfl
  | [l], _ => rw [byBraces_cons]; rfl

theorem Steady.quoted {e : Terminator} {t : Text} (h : Steady e t) (single : Bool) :
    Steady e (t.map (quoted single)) := by
  have hmem {c : Char} (hc : c ≠ '"') (hc' : c ≠ '\'') {u : Text} (hu : c ∉ u) :
      c ∉ u.map (Reindent.quoted single) := by
    intro hm
    obtain ⟨d, hd, hq⟩ := List.mem_map.1 hm
    rw [(quoted_eq_iff hc hc').1 hq] at hd
    exact hu hd
  by_cases he : e = .cr
  · rw [Steady, if_pos he] at h ⊢
    exact hmem (by decide) (by decide) h
  · rw [Steady, if_neg he] at h ⊢
    rw [bareLines_quoted]
    exact List.forall_mem_map.2 fun l hl => hmem (by decide) (by decide) (h l hl)

theorem byElements_single (i : Indent) {ls : List Text} (h : ls.length ≤ 1) : byElements i 0 ls = ls := by
  match ls, h with
  | [], _ => rfl
  | [l], _ =>
    obtain ⟨depth, hl⟩ := byElements_cons i l []
    rw [hl]
    rfl

theorem bareLines_ne_nil {t : Text} (h : ¬t.Blank) : bareLines t ≠ [] := by
  intro hnil
  have hflow := reflowed_lined t
  rw [hnil] at hflow
  have hblank := hflow.symm.blank blank_lineFeed
  exact h fun c hc => hblank c (by simp [hc])

section
variable {o : Options} {e : Terminator} {parser text out : Text}

theorem code_eq (h : engines.run o (Call.to .code parser text) = .text out) :
    out = joined (byBraces (Indent.ofOptions o) 0 (bareLines (text.map (quoted (o.flag .singleQuote))))) ++ ['\n'] := by
  have h : code parser text o = .text out := h
  unfold code at h
  dsimp only at h
  rw [reindented, ← byBraces_quoted (Indent.ofOptions_char o).1, ← bareLines_quoted] at h
  split at h
  · cases h
  · split at h
    · cases h
    · exact (Reply.text.inj h).symm

theorem stylesheet_eq (h : engines.run o (Call.to .stylesheet parser text) = .text out) :
    out = joined (byBraces (Indent.ofOptions o) 0 (bareLines text)) ++ ['\n'] := by
  have h : stylesheet parser text o = .text out := h
  unfold stylesheet at h
  dsimp only at h
  split at h
  · cases h
  · split at h
    · cases h
    · exact (Reply.text.inj h).symm

/-- Where an answer stands for the content, the same call has the same answer, and no closing tag has come up. No
character that is not blank has come or gone. -/
theorem run_spliced {family : Family} (hf : family ≠ .markup) (hs : text.Uses e)
    (h : engines.run o (Call.to family parser text) = .text out) :
    (∀ again, engines.run o (Call.to family parser (Text.withTerminator e.text ('\n' :: out))) = .text again →
      again = out) ∧
    (Text.withTerminator e.text ('\n' :: out)).solids = text.solids ∧
    ∀ name : Text, (∀ c ∈ name, isPlainNameChar c = true) → ClosingTag.Free name text →
      ClosingTag.Free name (Text.withTerminator e.text ('\n' :: out)) := by
  obtain ⟨hblank, hbreak⟩ := Indent.ofOptions_char o
  have hlines (t : Text) := indented_byBraces hblank hbreak 0 (bareLines t)
  have hsolids (t : Text) : Text.solids ('\n' :: (t ++ ['\n'])) = t.solids := by
    rw [Text.solids_cons, Text.solids_append, Text.solids_blank blank_lineFeed, if_pos (by decide), Nat.zero_add,
      Nat.add_zero]
  cases family with
  | markup => exact absurd rfl hf
  | stylesheet =>
    obtain rfl := stylesheet_eq h
    obtain ⟨hbare, hflow⟩ := bareLines_spliced hs.steady (hlines text) (byBraces_single _)
    refine ⟨fun again ha => ?_, ?_, fun name hname hfree => ?_⟩
    · rw [stylesheet_eq ha, hbare]
    · rw [← hflow.solids_eq, hsolids]
    · exact hfree.between.reflow hname hflow
  | code =>
    obtain rfl := code_eq h
    obtain ⟨hbare, hflow⟩ := bareLines_spliced (hs.steady.quoted (o.flag .singleQuote)) (hlines _) (byBraces_single _)
    refine ⟨fun again ha => ?_, ?_, fun name hname hfree => ?_⟩
    · rw [code_eq ha, bareLines_quoted, hbare, ← bareLines_quoted, List.map_map]
      simp only [Function.comp_def, quoted_quoted]
    · rw [← hflow.solids_eq, hsolids, Text.solids, List.countP_map]
      exact List.countP_congr fun c _ => by simp [isBlank_quoted]
    · exact (hfree.quoted _ hname).between.reflow hname hflow

theorem markup_eq (h : engines.run o (Call.to .markup parser text) = .text out) :
    out = joined (byElements ⟨' ', o.markup.indentSize⟩ 0 (bareLines text)) ++
      if o.markup.endWithNewline then ['\n'] else [] := by
  have h : markup text o = .text out := h
  unfold markup at h
  dsimp only at h
  split at h
  · cases h
  · exact (Reply.text.inj h).symm

/-- The line ends behind a text go when it has been written. -/
theorem trimEnd_written {d : Char} (hd : isBlank d = false) (u : Text) (b : Bool) :
    Text.trimEnd (fun c => c == '\r' || c == '\n')
        (Text.withTerminator e.text (u ++ [d] ++ if b then ['\n'] else [])) =
      Text.withTerminator e.text (u ++ [d]) := by
  have hlast : ∀ c ∈ (Text.withTerminator e.text (u ++ [d])).getLast?, (c == '\r' || c == '\n') = false := by
    rw [Text.withTerminator_concat (Text.isBreak_of_solid hd), List.getLast?_concat]
    rintro _ ⟨⟩
    simpa [isBreak, Bool.or_comm] using Text.isBreak_of_solid hd
  cases b with
  | true =>
    rw [if_pos rfl, withTerminator_break (by simpa using hd)]
    refine Text.trimEnd_append (fun c hc => ?_) hlast
    cases e <;> simp [Terminator.text] at hc <;> simp [hc]
  | false =>
    rw [if_neg (by decide), List.append_nil]
    simpa using Text.trimEnd_append (q := []) (by simp) hlast

theorem exists_first_byElements (i : Indent) {ls : List Text} (htight : ∀ l ∈ ls, l.Tight) (hne : ls ≠ []) :
    ∃ c v, joined (byElements i 0 ls) = c :: v ∧ isBlank c = false := by
  obtain ⟨l, more, rfl⟩ := List.exists_cons_of_ne_nil hne
  obtain ⟨depth, hfirst⟩ := byElements_cons i l more
  obtain ⟨v, hv⟩ := exists_joined l (byElements i depth more)
  obtain ⟨c, hc, hb⟩ := (htight l (List.mem_cons_self ..)).first
  cases l with
  | nil => cases hc
  | cons d l =>
    cases hc
    exact ⟨c, l ++ v, by rw [hfirst, hv]; rfl, hb⟩

/-- What stands for whole lines is the lines indented and written with the terminator. The lines are reflowed, and no
blanks are left around them. -/
theorem written_lines (hsome : ¬text.Blank) (h : engines.run o (Call.to .markup parser text) = .text out) :
    let lines := Text.trimEnd (fun c => c == '\r' || c == '\n') (Text.withTerminator e.text out)
    lines = Text.withTerminator e.text (joined (byElements ⟨' ', o.markup.indentSize⟩ 0 (bareLines text))) ∧
      lines.Tight ∧ lines.Uses e ∧ Text.Reflowed ('\n' :: (text ++ ['\n'])) ('\n' :: (lines ++ ['\n'])) := by
  intro lines
  have htight : ∀ l ∈ bareLines text, l.Tight := fun l hl => (of_mem_bareLines hl).1
  have hne := bareLines_ne_nil hsome
  have hindented := indented_byElements (i := ⟨' ', o.markup.indentSize⟩) rfl rfl 0 (bareLines text)
  have hflow := (reflowed_lined text).trans hindented.reflowed
  obtain ⟨u, d, hu, hd⟩ := hindented.exists_last htight hne
  obtain ⟨c, v, hv, hc⟩ := exists_first_byElements ⟨' ', o.markup.indentSize⟩ htight hne
  have hlines : lines = Text.withTerminator e.text
      (joined (byElements ⟨' ', o.markup.indentSize⟩ 0 (bareLines text))) := by
    show Text.trimEnd _ (Text.withTerminator e.text out) = _
    rw [markup_eq h, hu]
    exact trimEnd_written hd u _
  refine ⟨hlines, ?_⟩
  rw [hlines]
  refine ⟨⟨⟨c, ?_, hc⟩, ⟨d, ?_, hd⟩⟩, Text.uses_withTerminator e _, hflow.trans ?_⟩
  · rw [hv, Text.withTerminator_cons (Text.isBreak_of_solid hc)]
    rfl
  · rw [hu, Text.withTerminator_concat (Text.isBreak_of_solid hd)]
    simp
  · exact ((Text.reflowed_withTerminator e _).append_right _).append_left ['\n']

/-- Where an answer stands for whole lines, the same call has the same answer. The lines are reflowed, and no blanks are
left around them. -/
theorem run_lines (hs : text.Uses e) (hsome : ¬text.Blank)
    (h : engines.run o (Call.to .markup parser text) = .text out) :
    let lines := Text.trimEnd (fun c => c == '\r' || c == '\n') (Text.withTerminator e.text out)
    lines.Tight ∧ lines.Uses e ∧ Text.Reflowed ('\n' :: (text ++ ['\n'])) ('\n' :: (lines ++ ['\n'])) ∧
      ∀ again, engines.run o (Call.to .markup parser lines) = .text again → again = out := by
  intro lines
  obtain ⟨hlines, htight, huses, hflow⟩ := written_lines (e := e) hsome h
  have hindented := indented_byElements (i := ⟨' ', o.markup.indentSize⟩) rfl rfl 0 (bareLines text)
  refine ⟨htight, huses, hflow, fun again ha => ?_⟩
  have hlines : lines = _ := hlines
  rw [hlines] at ha
  rw [markup_eq ha, bareLines_written hs.steady hindented (byElements_single _), markup_eq h]

end

end Reindent

end ComponentFormat
