import Mathlib.Data.List.Perm.Subperm
import ComponentFormat.Proofs.Segmentation

/-! # Edits line by line

What edits make of a document can be said line by line: a line that no edit covers stays with its terminator, the last
line of an edit gives way to the text of the edit and keeps its terminator, and the lines above that one are left out.
Edits are applied, in whatever order they come, exactly when no two of them share a line and none of them reaches behind
the last line, and this is what they come to (`Document.applyEdits_amended`).
-/
namespace ComponentFormat

namespace LineSpan
variable {s t : LineSpan}

def Holds (s : LineSpan) (n : Nat) : Prop := s.first ≤ n ∧ n ≤ s.last

instance (s : LineSpan) (n : Nat) : Decidable (s.Holds n) := inferInstanceAs (Decidable (_ ∧ _))

def Apart (s t : LineSpan) : Prop := ∀ n, ¬(s.Holds n ∧ t.Holds n)

theorem Apart.symm (h : s.Apart t) : t.Apart s := fun n hn => h n hn.symm

theorem apart_iff : s.Apart t ↔ s.overlaps t = false := by
  rw [← Bool.not_eq_true, overlaps_iff, not_exists]
  rfl

end LineSpan

namespace Edit
variable {edits others : List Edit}

def Apart (edits : List Edit) : Prop := edits.Pairwise fun a b => a.span.Apart b.span

theorem apart_perm (h : others.Perm edits) : Apart others ↔ Apart edits := h.pairwise_iff fun h => h.symm

theorem perm_inOrder (edits : List Edit) : (inOrder edits).Perm edits := Sorted.perm_ofList _ edits

theorem sorted_inOrder (edits : List Edit) : (inOrder edits).Pairwise fun a b => a.span.first ≤ b.span.first :=
  Sorted.pairwise_ofList _ edits

/-- In ascending order of the first lines, neighbours that share no line are enough. -/
theorem firstOverlap?_eq_none_iff (h : edits.Pairwise fun a b => a.span.first ≤ b.span.first) :
    firstOverlap? edits = none ↔ edits.Pairwise fun a b => a.span.last < b.span.first := by
  refine ⟨fun hnone => ?_, firstOverlap?_eq_none⟩
  fun_induction firstOverlap? edits with
  | case1 => cases hnone
  | case2 a b more hab ih =>
    obtain ⟨ha, hmore⟩ := List.pairwise_cons.1 h
    have hlt : a.span.last < b.span.first :=
      Selection.last_lt_first (ha b (List.mem_cons_self ..)) (Bool.eq_false_iff.2 hab)
    refine List.pairwise_cons.2 ⟨fun c hc => ?_, ih hmore hnone⟩
    rcases List.mem_cons.1 hc with rfl | hc
    · exact hlt
    · exact Nat.lt_of_lt_of_le hlt ((List.pairwise_cons.1 hmore).1 c hc)
  | case3 edits hshort =>
    rcases edits with _ | ⟨a, _ | ⟨b, more⟩⟩
    · exact .nil
    · exact List.pairwise_singleton ..
    · exact absurd rfl (hshort a b more)

theorem of_firstOverlap? {upper lower : LineSpan} (h : firstOverlap? edits = some (upper, lower)) :
    ∃ a b, [a, b].Sublist edits ∧ a.span = upper ∧ b.span = lower ∧ ¬upper.Apart lower := by
  fun_induction firstOverlap? edits with
  | case1 a b more hab =>
    cases h
    exact ⟨a, b, ((List.nil_sublist more).cons_cons b).cons_cons a, rfl, rfl, by simp [LineSpan.apart_iff, hab]⟩
  | case2 a b more _ ih =>
    obtain ⟨x, y, hsub, hx⟩ := ih h
    exact ⟨x, y, hsub.cons a, hx⟩
  | case3 => cases h

theorem apart_iff_ascending (h : edits.Pairwise fun a b => a.span.first ≤ b.span.first) :
    Apart edits ↔ edits.Pairwise fun a b => a.span.last < b.span.first := by
  refine ⟨fun ha => ?_, fun ha => ha.imp fun hab => ?_⟩
  · exact (h.and ha).imp fun hab => Selection.last_lt_first hab.1 (LineSpan.apart_iff.1 hab.2)
  · exact LineSpan.apart_iff.2 (Selection.overlaps_eq_false hab)

theorem firstOverlap?_inOrder : firstOverlap? (inOrder edits) = none ↔ Apart edits := by
  rw [← apart_perm (perm_inOrder edits), apart_iff_ascending (sorted_inOrder edits)]
  exact firstOverlap?_eq_none_iff (sorted_inOrder edits)

theorem ascending_inOrder (h : Apart edits) : (inOrder edits).Pairwise fun a b => a.span.last < b.span.first :=
  (apart_iff_ascending (sorted_inOrder edits)).1 ((apart_perm (perm_inOrder edits)).2 h)

theorem inOrder_eq (h : others.Perm edits) (ha : Apart edits) : inOrder others = inOrder edits := by
  refine List.Perm.eq_of_pairwise (fun a b _ _ hab hba => ?_) (ascending_inOrder ((apart_perm h).2 ha))
    (ascending_inOrder ha) ((perm_inOrder others).trans (h.trans (perm_inOrder edits).symm))
  have := a.span.first_le_last
  have := b.span.first_le_last
  omega

end Edit

namespace Document
open Text (gather)
variable {d : Document} {edits others more : List Edit} {e : Edit} {n : Nat}

/-- What the edits make of one line and the terminator behind it. -/
def amendedLine (d : Document) (edits : List Edit) (n : Nat) : Text :=
  match edits.find? fun e => e.span.Holds n with
  | none => d.lines.line n ++ d.lines.ending n
  | some e => if n = e.span.last then e.text ++ d.lines.ending n else []

/-- What the edits make of the document, line by line. -/
def amended (d : Document) (edits : List Edit) : Text := gather (d.amendedLine edits) 0 d.lineCount

theorem amendedLine_cons_of_holds (h : e.span.Holds n) :
    d.amendedLine (e :: more) n = if n = e.span.last then e.text ++ d.lines.ending n else [] := by
  rw [amendedLine, List.find?_cons_of_pos (by simpa using h)]

theorem amendedLine_cons_of_not_holds (h : ¬e.span.Holds n) :
    d.amendedLine (e :: more) n = d.amendedLine more n := by
  rw [amendedLine, List.find?_cons_of_neg (by simpa using h), amendedLine]

theorem amendedLine_of_not_holds (h : ∀ e ∈ edits, ¬e.span.Holds n) : d.amendedLine edits n = d.lines.row n := by
  rw [amendedLine, List.find?_eq_none.2 (by simpa using h)]
  rfl

/-- Of edits that share no line only one matters to a line. -/
theorem amendedLine_of_holds (ha : Edit.Apart edits) (he : e ∈ edits) (h : e.span.Holds n) :
    d.amendedLine edits n = if n = e.span.last then e.text ++ d.lines.ending n else [] := by
  induction edits with
  | nil => cases he
  | cons a more ih =>
    obtain ⟨hfirst, hmore⟩ := List.pairwise_cons.1 ha
    rcases List.mem_cons.1 he with rfl | he
    · exact amendedLine_cons_of_holds h
    · rw [amendedLine_cons_of_not_holds fun hn => hfirst e he n ⟨hn, h⟩, ih hmore he]

theorem amended_perm (h : others.Perm edits) (ha : Edit.Apart edits) : d.amended others = d.amended edits := by
  refine Text.gather_congr fun n _ _ => ?_
  by_cases hn : ∃ e ∈ edits, e.span.Holds n
  · obtain ⟨e, he, hn⟩ := hn
    rw [amendedLine_of_holds ha he hn, amendedLine_of_holds ((Edit.apart_perm h).2 ha) (h.mem_iff.2 he) hn]
  · have hnone : ∀ e ∈ edits, ¬e.span.Holds n := fun e he hen => hn ⟨e, he, hen⟩
    rw [amendedLine_of_not_holds hnone, amendedLine_of_not_holds fun e he => hnone e (h.mem_iff.1 he)]

theorem amended_nil (d : Document) : d.amended [] = d.text :=
  (Lines.toText_eq_gather d.lines).symm.trans (Lines.toText_ofText d.text)

/-- One more edit, above all others, replaces its lines and nothing else. -/
theorem exists_amended_cons (hmore : ∀ b ∈ more, e.span.last < b.span.first) (he : e.span.last < d.lineCount) :
    ∃ behind, d.amended more = gather d.lines.row 0 e.span.first ++
        (gather d.lines.row e.span.first e.span.last ++ d.lines.line e.span.last) ++ behind ∧
      d.amended (e :: more) = gather d.lines.row 0 e.span.first ++ e.text ++ behind := by
  have hle := e.span.first_le_last
  have hkept (n : Nat) (hn : n ≤ e.span.last) : d.amendedLine more n = d.lines.row n :=
    amendedLine_of_not_holds fun b hb h => by
      have := hmore b hb
      have := h.1
      omega
  have hother (n : Nat) (hn : ¬e.span.Holds n) : d.amendedLine (e :: more) n = d.amendedLine more n :=
    amendedLine_cons_of_not_holds hn
  refine ⟨d.lines.ending e.span.last ++ gather (d.amendedLine more) (e.span.last + 1) d.lineCount, ?_, ?_⟩
  · have hfront : gather (d.amendedLine more) 0 (e.span.last + 1) = gather d.lines.row 0 (e.span.last + 1) :=
      Text.gather_congr fun n _ hn => hkept n (by omega)
    rw [amended, ← Text.gather_append (Nat.zero_le _) he, hfront, Text.gather_succ (Nat.zero_le _),
      ← Text.gather_append (Nat.zero_le _) hle, Lines.row]
    simp only [List.append_assoc]
  · have hfront : gather (d.amendedLine (e :: more)) 0 e.span.first = gather d.lines.row 0 e.span.first :=
      Text.gather_congr fun n _ hn => by
        rw [hother n fun h => absurd h.1 (by omega), hkept n (by omega)]
    have hlines : gather (d.amendedLine (e :: more)) e.span.first e.span.last = [] :=
      Text.gather_eq_nil fun n hfirst hlast => by
        rw [amendedLine_cons_of_holds ⟨hfirst, by omega⟩, if_neg (by omega)]
    have hlast : d.amendedLine (e :: more) e.span.last = e.text ++ d.lines.ending e.span.last := by
      rw [amendedLine_cons_of_holds ⟨hle, Nat.le_refl _⟩, if_pos rfl]
    have hbehind : gather (d.amendedLine (e :: more)) (e.span.last + 1) d.lineCount =
        gather (d.amendedLine more) (e.span.last + 1) d.lineCount :=
      Text.gather_congr fun n hn _ => hother n fun h => absurd h.2 (by omega)
    rw [amended, ← Text.gather_append (Nat.zero_le _) he, hbehind, Text.gather_succ (Nat.zero_le _), hlast,
      ← Text.gather_append (Nat.zero_le _) hle, hfront, hlines]
    simp only [List.append_assoc, List.append_nil]

theorem lineStart_eq (h : n < d.lineCount) : d.lineStart n = .ok (gather d.lines.row 0 n).length :=
  lineStart_of_extent? (extent?_eq h)

theorem lineEnd_eq (h : n < d.lineCount) :
    d.lineEnd n = .ok (gather d.lines.row 0 n ++ d.lines.line n).length :=
  lineEnd_of_extent? (extent?_eq h)

theorem extent_eq_error (h : d.lineCount ≤ n) : d.extent n = .error (.line n) := by
  rw [extent, if_neg (by omega), Int.toNat_natCast, extent?_eq_none h]

theorem replaceUpwards_eq_amended (hp : edits.Pairwise fun a b => a.span.last < b.span.first)
    (hin : ∀ e ∈ edits, e.span.last < d.lineCount) : d.replaceUpwards edits = .ok (d.amended edits) := by
  induction edits with
  | nil => rw [replaceUpwards, amended_nil]
  | cons e more ih =>
    obtain ⟨hlt, hmore⟩ := List.pairwise_cons.1 hp
    obtain ⟨he, hin⟩ := List.forall_mem_cons.1 hin
    have hle := e.span.first_le_last
    obtain ⟨behind, hold, hnew⟩ := exists_amended_cons hlt he
    have hstop := lineEnd_eq he
    rw [← Text.gather_append (Nat.zero_le _) hle, List.append_assoc] at hstop
    rw [replaceUpwards, ih hmore hin]
    simp only [lineStart_eq (Nat.lt_of_le_of_lt hle he), hstop, bind, Except.bind, pure, Except.pure]
    rw [hold, hnew, List.drop_left, List.append_assoc (gather d.lines.row 0 e.span.first), List.take_left]

/-- Edits are applied unless one of them ends behind the last line. -/
theorem replaceUpwards_cases (d : Document) (edits : List Edit) :
    ((∀ e ∈ edits, e.span.last < d.lineCount) ∧ ∃ t, d.replaceUpwards edits = .ok t) ∨
    (∃ e ∈ edits, d.lineCount ≤ e.span.last) ∧ ∃ n : Int, d.replaceUpwards edits = .error (.line n) := by
  induction edits with
  | nil => exact .inl ⟨nofun, d.text, rfl⟩
  | cons e more ih =>
    rcases ih with ⟨hin, t, ht⟩ | ⟨⟨b, hb, hout⟩, n, hn⟩
    · by_cases he : e.span.last < d.lineCount
      · refine .inl ⟨List.forall_mem_cons.2 ⟨he, hin⟩, ?_⟩
        rw [replaceUpwards, ht, lineStart_eq (Nat.lt_of_le_of_lt e.span.first_le_last he), lineEnd_eq he]
        exact ⟨_, rfl⟩
      · refine .inr ⟨⟨e, List.mem_cons_self .., Nat.le_of_not_lt he⟩, ?_⟩
        rw [replaceUpwards, ht, lineEnd, extent_eq_error (Nat.le_of_not_lt he)]
        by_cases hfirst : e.span.first < d.lineCount
        · rw [lineStart_eq hfirst]
          exact ⟨_, rfl⟩
        · rw [lineStart, extent_eq_error (Nat.le_of_not_lt hfirst)]
          exact ⟨_, rfl⟩
    · refine .inr ⟨⟨b, List.mem_cons_of_mem _ hb, hout⟩, n, ?_⟩
      rw [replaceUpwards, hn]
      rfl

theorem applyEdits_of_apart (d : Document) (h : Edit.Apart edits) :
    d.applyEdits edits = (d.replaceUpwards (Edit.inOrder edits)).mapError .position := by
  rw [applyEdits, Edit.firstOverlap?_inOrder.2 h]

theorem applyEdits_of_not_apart (d : Document) (h : ¬Edit.Apart edits) : ∃ a b, [a, b].Subperm edits ∧
    ¬a.span.Apart b.span ∧ d.applyEdits edits = .error (.overlapping a.span b.span) := by
  cases hover : Edit.firstOverlap? (Edit.inOrder edits) with
  | none => exact absurd (Edit.firstOverlap?_inOrder.1 hover) h
  | some p =>
    obtain ⟨a, b, hsub, ha, hb, hab⟩ := Edit.of_firstOverlap? hover
    refine ⟨a, b, hsub.subperm.trans (Edit.perm_inOrder edits).subperm, ha ▸ hb ▸ hab, ?_⟩
    rw [applyEdits, hover, ha, hb]

theorem applyEdits_cases (d : Document) (h : Edit.Apart edits) :
    ((∀ e ∈ edits, e.span.last < d.lineCount) ∧ d.applyEdits edits = .ok (d.amended edits)) ∨
    (∃ e ∈ edits, d.lineCount ≤ e.span.last) ∧ ∃ n : Int, d.applyEdits edits = .error (.position (.line n)) := by
  have hmem {e : Edit} : e ∈ Edit.inOrder edits ↔ e ∈ edits := (Edit.perm_inOrder edits).mem_iff
  rw [applyEdits_of_apart d h]
  rcases replaceUpwards_cases d (Edit.inOrder edits) with ⟨hin, -⟩ | ⟨⟨e, he, hout⟩, n, hn⟩
  · refine .inl ⟨fun e he => hin e (hmem.2 he), ?_⟩
    rw [replaceUpwards_eq_amended (Edit.ascending_inOrder h) hin, amended_perm (Edit.perm_inOrder edits) h]
    rfl
  · refine .inr ⟨⟨e, hmem.1 he, hout⟩, n, ?_⟩
    rw [hn]
    rfl

theorem applyEdits_eq_overlapping_iff (d : Document) (edits : List Edit) :
    (∃ upper lower, d.applyEdits edits = .error (.overlapping upper lower)) ↔ ¬Edit.Apart edits := by
  constructor
  · rintro ⟨upper, lower, h⟩ ha
    rcases applyEdits_cases d ha with ⟨-, hr⟩ | ⟨-, n, hr⟩ <;> cases h.symm.trans hr
  · intro h
    obtain ⟨a, b, -, -, hr⟩ := applyEdits_of_not_apart d h
    exact ⟨_, _, hr⟩

theorem apart_of_applyEdits {r : Except EditError Text} (h : d.applyEdits edits = r)
    (hr : ∀ upper lower, r ≠ .error (.overlapping upper lower)) : Edit.Apart edits := by
  by_contra hnot
  obtain ⟨upper, lower, hover⟩ := (applyEdits_eq_overlapping_iff d edits).2 hnot
  exact hr upper lower (h.symm.trans hover)

theorem applyEdits_eq_position_iff (d : Document) (edits : List Edit) :
    (∃ n, d.applyEdits edits = .error (.position (.line n))) ↔
      Edit.Apart edits ∧ ∃ e ∈ edits, d.lineCount ≤ e.span.last := by
  constructor
  · rintro ⟨n, h⟩
    have ha := apart_of_applyEdits h nofun
    rcases applyEdits_cases d ha with ⟨-, hr⟩ | ⟨hout, -⟩
    · cases h.symm.trans hr
    · exact ⟨ha, hout⟩
  · rintro ⟨ha, e, he, hout⟩
    rcases applyEdits_cases d ha with ⟨hin, -⟩ | ⟨-, hn⟩
    · exact absurd (hin e he) (Nat.not_lt.2 hout)
    · exact hn

theorem applyEdits_eq_ok_iff (d : Document) (edits : List Edit) (t : Text) : d.applyEdits edits = .ok t ↔
    Edit.Apart edits ∧ (∀ e ∈ edits, e.span.last < d.lineCount) ∧ t = d.amended edits := by
  constructor
  · intro h
    have ha := apart_of_applyEdits h nofun
    rcases applyEdits_cases d ha with ⟨hin, hr⟩ | ⟨-, n, hr⟩
    · exact ⟨ha, hin, Except.ok.inj (h.symm.trans hr)⟩
    · cases h.symm.trans hr
  · rintro ⟨ha, hin, rfl⟩
    rcases applyEdits_cases d ha with ⟨-, hr⟩ | ⟨⟨e, he, hout⟩, -⟩
    · exact hr
    · exact absurd (hin e he) (Nat.not_lt.2 hout)

theorem amended_eq_text (hp : edits.Pairwise fun a b => a.span.last < b.span.first)
    (hin : ∀ e ∈ edits, e.span.last < d.lineCount)
    (hsame : ∀ e ∈ edits, d.wholeLines e.span.first e.span.last = .ok e.text) : d.amended edits = d.text := by
  induction edits with
  | nil => exact d.amended_nil
  | cons e more ih =>
    obtain ⟨hlt, hmore⟩ := List.pairwise_cons.1 hp
    obtain ⟨he, hin⟩ := List.forall_mem_cons.1 hin
    obtain ⟨hlines, hsame⟩ := List.forall_mem_cons.1 hsame
    obtain ⟨behind, hold, hnew⟩ := exists_amended_cons hlt he
    rw [wholeLines_eq e.span.first_le_last he] at hlines
    rw [hnew, ← Except.ok.inj hlines, ← hold, ih hmore hin hsame]

theorem last_lt_of_wholeLines {s : LineSpan} {t : Text} (h : d.wholeLines s.first s.last = .ok t) :
    s.last < d.lineCount := by
  by_contra hout
  have hle : ¬(s.last : Int) < s.first := by
    have := s.first_le_last
    omega
  rw [wholeLines, if_neg hle, lineEnd, extent_eq_error (Nat.le_of_not_lt hout)] at h
  cases hstart : d.lineStart s.first <;> simp [hstart, bind, Except.bind, Except.map] at h

/-- Edits are refused for an overlap exactly when two of them share a line, and the message names two that do. Otherwise
they are refused for a missing line exactly when one of them ends behind the last line. Otherwise they come to the
document amended line by line. The order of the edits does not matter, and edits that replace lines by themselves change
nothing. -/
theorem applyEdits_amended (d : Document) (edits : List Edit) :
    ((∃ upper lower, d.applyEdits edits = .error (.overlapping upper lower)) ↔ ¬Edit.Apart edits) ∧
    (∀ upper lower, d.applyEdits edits = .error (.overlapping upper lower) →
      ∃ a b, [a, b].Subperm edits ∧ ¬a.span.Apart b.span ∧ a.span = upper ∧ b.span = lower) ∧
    ((∃ n, d.applyEdits edits = .error (.position (.line n))) ↔
      Edit.Apart edits ∧ ∃ e ∈ edits, d.lineCount ≤ e.span.last) ∧
    (∀ t, d.applyEdits edits = .ok t ↔
      Edit.Apart edits ∧ (∀ e ∈ edits, e.span.last < d.lineCount) ∧ t = d.amended edits) ∧
    (∀ others, others.Perm edits →
      (Edit.Apart others ↔ Edit.Apart edits) ∧ (Edit.Apart edits → d.applyEdits others = d.applyEdits edits)) ∧
    (Edit.Apart edits → (∀ e ∈ edits, d.wholeLines e.span.first e.span.last = .ok e.text) →
      d.applyEdits edits = .ok d.text) := by
  refine ⟨applyEdits_eq_overlapping_iff d edits, fun upper lower h => ?_, applyEdits_eq_position_iff d edits,
    applyEdits_eq_ok_iff d edits, fun others h => ⟨Edit.apart_perm h, fun ha => ?_⟩, fun ha hsame => ?_⟩
  · obtain ⟨a, b, hsub, hab, hr⟩ := applyEdits_of_not_apart d ((applyEdits_eq_overlapping_iff d edits).1 ⟨_, _, h⟩)
    cases h.symm.trans hr
    exact ⟨a, b, hsub, hab, rfl, rfl⟩
  · rw [applyEdits_of_apart d ha, applyEdits_of_apart d ((Edit.apart_perm h).2 ha), Edit.inOrder_eq h ha]
  · have hperm := Edit.perm_inOrder edits
    have hin (e : Edit) (he : e ∈ edits) : e.span.last < d.lineCount := last_lt_of_wholeLines (hsame e he)
    refine (applyEdits_eq_ok_iff d edits d.text).2 ⟨ha, hin, ?_⟩
    rw [← amended_perm hperm ha, amended_eq_text (Edit.ascending_inOrder ha) (fun e he => hin e (hperm.mem_iff.1 he))
      fun e he => hsame e (hperm.mem_iff.1 he)]

end Document

end ComponentFormat
