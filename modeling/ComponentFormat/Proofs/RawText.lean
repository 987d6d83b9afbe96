import ComponentFormat.Proofs.LowerCase
import ComponentFormat.Proofs.Records

/-! # The end of raw text

Content that is not interpreted ends at the first closing tag whose name is, letter by letter, the lower case of its
tag's name (`OpeningTag.rawEnd_of_read`). A template compares lower cases instead. The two are one comparison for a name
exactly if none of its letters shares its upper case with another, and for a name in ASCII in front of all texts without
three letters.
-/
namespace ComponentFormat

namespace Text

theorem solid_lowerFrom {w : Text} (h : w.Solid) (passed : Text) : Solid (lowerFrom passed w) := by
  induction w generalizing passed with
  | nil => exact List.forall_mem_nil _
  | cons c w ih =>
    obtain ⟨hc, hw⟩ := List.forall_mem_cons.1 h
    obtain ⟨image, himage, hcases⟩ := lowerFrom_image passed c w
    rw [himage, Solid, List.forall_mem_append]
    refine ⟨?_, ih hw _⟩
    rcases hcases with ⟨-, rfl⟩ | ⟨-, rfl | rfl⟩ | ⟨-, rfl⟩
    · exact List.forall_mem_cons.2 ⟨by decide, List.forall_mem_singleton.2 (by decide)⟩
    · exact List.forall_mem_singleton.2 (by decide)
    · exact List.forall_mem_singleton.2 (by decide)
    · rw [List.forall_mem_singleton]
      exact Bool.eq_false_iff.2 fun hb => Bool.eq_false_iff.1 hc (isBlank_of_lowerLetter hb)

theorem solid_of_lower {w : Text} (h : (lower w).Solid) : w.Solid := by
  intro c hc
  by_contra hblank
  have hsettled := (lowerLetter_of_blank (.inl (Bool.not_eq_false _ ▸ hblank))).1
  have hmem : c ∈ lower w := by
    refine lowerSequence_subset_lowerFrom hc ?_ ?_
    · rintro rfl
      exact hblank (by decide)
    · rw [lowerSequence, hsettled]
      split
      · next hdotted =>
        obtain rfl : c = '\u0130' := Char.toNat_inj.1 hdotted
        exact absurd (by decide) hblank
      · exact List.mem_singleton_self c
  exact hblank (h c hmem)

theorem Alike.solid {name w : Text} (h : Alike name w) (hname : name.Solid)
    (hsettled : ∀ n ∈ name, lowerLetter n = n) : w.Solid := by
  induction h with
  | nil => exact List.forall_mem_nil _
  | @cons n c name w hsame _ ih =>
    obtain ⟨hn, hname⟩ := List.forall_mem_cons.1 hname
    obtain ⟨hlower, hsettled⟩ := List.forall_mem_cons.1 hsettled
    refine List.forall_mem_cons.2 ⟨Bool.eq_false_iff.2 fun hc => ?_, ih hname hsettled⟩
    obtain ⟨hsame', hshared⟩ := lowerLetter_of_blank (.inl hc)
    simp only [sameLetter, hlower, hsame', Bool.or_eq_true, beq_iff_eq] at hsame
    rcases hsame with rfl | hsame
    · rw [hc] at hn
      cases hn
    · split at hsame
      · next hq => exact hshared _ (List.mem_of_find?_eq_some hq) (by simpa using hsame)
      · cases hsame

end Text

/-- At the front is a closing tag of one of the names, with blanks behind it, and `rest` follows. -/
def ClosingTag.Stands (names : Text → Prop) (t rest : Text) : Prop :=
  ∃ w gap : Text, names w ∧ gap.Blank ∧ t = '<' :: '/' :: (w ++ gap ++ ['>']) ++ rest

namespace EndTag
open ClosingTag (Stands)

/-- It is the first closing tag in the text of one of the names. -/
structure First (names : Text → Prop) (t : Text) (e : EndTag) : Prop where
  stands : Stands names e.start e.rest
  least : ∃ a, t = a ++ e.start ∧ ∀ u v rest, t = u ++ v → u.length < a.length → ¬Stands names v rest

variable {names names' : Text → Prop} {name t : Text} {e : EndTag}

theorem readNamed?_iff_stands {rest : Text} : ClosingTag.readNamed? name t = some rest ↔ Stands name.Alike t rest := by
  rw [ClosingTag.readNamed?_iff]
  constructor
  · rintro ⟨_, ⟨w, gap, hw, hgap, rfl⟩, rfl⟩
    exact ⟨w, gap, hw, hgap, rfl⟩
  · rintro ⟨w, gap, hw, hgap, rfl⟩
    exact ⟨_, ⟨w, gap, hw, hgap, rfl⟩, rfl⟩

theorem find?_eq_some_iff : find? name t = some e ↔ First name.Alike t e := by
  have first_of_find? {e : EndTag} (h : find? name t = some e) : First name.Alike t e := by
    obtain ⟨hend, a, ha, hnone⟩ := find?_eq_some h
    refine ⟨readNamed?_iff_stands.1 hend, a, ha, fun u v rest ht hlt hstands => ?_⟩
    rw [← readNamed?_iff_stands, hnone u v ht hlt] at hstands
    cases hstands
  refine ⟨first_of_find?, fun h => ?_⟩
  obtain ⟨a, ha, hleast⟩ := h.least
  have hread := readNamed?_iff_stands.2 h.stands
  cases hfind : find? name t with
  | none =>
    rw [find?_eq_none_iff.1 hfind a e.start ha] at hread
    cases hread
  | some e' =>
    have h' := first_of_find? hfind
    obtain ⟨a', ha', hleast'⟩ := h'.least
    have hlen : a.length = a'.length := by
      refine Nat.le_antisymm ?_ ?_
      · exact Nat.le_of_not_lt fun hlt => hleast _ _ _ ha' hlt h'.stands
      · exact Nat.le_of_not_lt fun hlt => hleast' _ _ _ ha hlt h.stands
    have hstart := (List.append_inj (ha.symm.trans ha') hlen).2
    have hread' := readNamed?_iff_stands.2 h'.stands
    rw [← hstart, hread] at hread'
    obtain ⟨start, rest⟩ := e
    obtain ⟨start', rest'⟩ := e'
    cases hstart
    cases hread'
    rfl

theorem find?_eq_none_iff_first : find? name t = none ↔ ∀ e, ¬First name.Alike t e := by
  simp only [← find?_eq_some_iff]
  exact Option.eq_none_iff_forall_ne_some

theorem stands_congr {v rest : Text} (h : ∀ w : Text, w ⊆ v → (names w ↔ names' w)) :
    Stands names v rest ↔ Stands names' v rest := by
  have hword {w gap : Text} (hv : v = '<' :: '/' :: (w ++ gap ++ ['>']) ++ rest) : w ⊆ v := by
    intro c hc
    rw [hv]
    simp [hc]
  constructor
  · rintro ⟨w, gap, hw, hgap, hv⟩
    exact ⟨w, gap, (h w (hword hv)).1 hw, hgap, hv⟩
  · rintro ⟨w, gap, hw, hgap, hv⟩
    exact ⟨w, gap, (h w (hword hv)).2 hw, hgap, hv⟩

theorem First.congr (h : ∀ w : Text, w ⊆ t → (names w ↔ names' w)) (hfirst : First names t e) :
    First names' t e := by
  obtain ⟨hstands, a, ha, hleast⟩ := hfirst
  have hsub {u v rest : Text} (ht : t = u ++ v) : Stands names v rest ↔ Stands names' v rest :=
    stands_congr fun w hw => h w (List.Subset.trans hw (ht ▸ List.subset_append_right u v))
  refine ⟨(hsub ha).1 hstands, a, ha, fun u v rest ht hlt hv => ?_⟩
  exact hleast u v rest ht hlt ((hsub ht).2 hv)

theorem first_congr (h : ∀ w : Text, w ⊆ t → (names w ↔ names' w)) : First names t e ↔ First names' t e :=
  ⟨.congr h, .congr fun w hw => (h w hw).symm⟩

theorem first_tag {w : Text} (hw : names w) :
    First names ('<' :: '/' :: (w ++ ['>'])) ⟨'<' :: '/' :: (w ++ ['>']), []⟩ :=
  ⟨⟨w, [], hw, Text.blank_nil, by simp⟩, [], rfl, fun _ _ _ _ hlt => absurd hlt (Nat.not_lt_zero _)⟩

/-- A tag is of a name as it is written. -/
theorem First.of_tag {w : Text} (hw : w.Solid)
    (h : First names ('<' :: '/' :: (w ++ ['>'])) ⟨'<' :: '/' :: (w ++ ['>']), []⟩) : names w := by
  obtain ⟨w', gap, hw', hgap, he⟩ := h.stands
  have hword : w = w' ++ gap := by
    simp only [List.append_nil, List.cons.injEq, true_and] at he
    exact List.append_cancel_right he
  have hnil : gap = [] := by
    refine List.eq_nil_iff_forall_not_mem.2 fun c hc => ?_
    have hsolid := hw c (hword ▸ List.mem_append_right w' hc)
    rw [hgap c hc] at hsolid
    cases hsolid
  rwa [hword, hnil, List.append_nil]

/-- The first tag of a name letter by letter is in every text the first one by lower cases, exactly if no letter shares
its upper case with another. -/
theorem first_alike_lower_iff (hname : name.Solid) :
    (∀ t e, First (Text.lower name).Alike t e ↔ First (fun w => Text.lower w = Text.lower name) t e) ↔
      ∀ c ∈ Text.lower name, Text.sharesUpper c = false := by
  rw [← Text.alike_eq_lower_iff]
  constructor
  · intro h w
    constructor
    · intro hw
      have hsolid := hw.solid (Text.solid_lowerFrom hname []) Text.settled_of_mem_lowerFrom
      have hfirst := (h _ ⟨_, []⟩).1 (first_tag hw)
      exact (hfirst.of_tag hsolid :)
    · intro hw
      have hsolid : w.Solid := by
        apply Text.solid_of_lower
        rw [hw]
        exact Text.solid_lowerFrom hname []
      have hfirst := (h _ ⟨_, []⟩).2 (first_tag hw)
      exact hfirst.of_tag hsolid
  · exact fun h t e => first_congr fun w _ => h w

end EndTag

theorem Block.findEnd_raw {tag : OpeningTag} {t inside : Text} (hopen : tag.selfClosing = false)
    (hhtml : isHtmlTemplate (Text.lower tag.name) (Attributes.ofText tag.attributeText) = false) :
    findEnd tag t inside =
      match EndTag.find? (Text.lower tag.name) inside with
      | some e => .ok e
      | none => .error ⟨.missingEnd (Text.lower tag.name), t⟩ := by
  cases hfind : EndTag.find? (Text.lower tag.name) inside with
  | none => simp [findEnd, hopen, hhtml, hfind]
  | some e => simp [findEnd, hopen, hhtml, hfind]

theorem Token.readTag_raw {tag : OpeningTag} {u inside : Text} (h : OpeningTag.read? ('<' :: u) = some (tag, inside))
    (hopen : tag.selfClosing = false) (hraw : isRawText (Text.lower tag.name) = true) :
    readTag u =
      match EndTag.find? (Text.lower tag.name) inside with
      | some e => .ok (.inert .leaf, e.rest)
      | none => .error ⟨.missingEnd (Text.lower tag.name), '<' :: u⟩ := by
  obtain ⟨v, hv, hcomment, hstroke⟩ := exists_bracket_of_read? h
  obtain ⟨-, rfl⟩ := List.cons.inj hv
  rw [readTag_opening hcomment hstroke, h]
  have hvoid := not_isVoid_of_isRawText hraw
  cases hfind : EndTag.find? (Text.lower tag.name) inside with
  | none => simp [hopen, hvoid, hraw, hfind]
  | some e => simp [hopen, hvoid, hraw, hfind]

namespace OpeningTag
open EndTag (First)

/-- Raw text that `tag` opens ends at the first closing tag in `inside` whose name is like the lower case of its own,
letter by letter, and where there is none it never ends. Of the names with that lower case this passes over those with a
dotted capital I. In all texts it is the first tag by lower cases exactly if no letter shares its upper case. -/
structure RawEnd (tag : OpeningTag) (u inside : Text) : Prop where
  block_ok : Block.isHtmlTemplate (Text.lower tag.name) (Attributes.ofText tag.attributeText) = false →
    ∀ e, Block.findEnd tag ('<' :: u) inside = .ok e ↔ First (Text.lower tag.name).Alike inside e
  block_error : Block.isHtmlTemplate (Text.lower tag.name) (Attributes.ofText tag.attributeText) = false →
    ∀ f, Block.findEnd tag ('<' :: u) inside = .error f ↔
      f = ⟨.missingEnd (Text.lower tag.name), '<' :: u⟩ ∧ ∀ e, ¬First (Text.lower tag.name).Alike inside e
  element_ok : isRawText (Text.lower tag.name) = true → ∀ k rest, Token.readTag u = .ok (k, rest) ↔
    k = .inert .leaf ∧ ∃ e, First (Text.lower tag.name).Alike inside e ∧ e.rest = rest
  element_error : isRawText (Text.lower tag.name) = true → ∀ f, Token.readTag u = .error f ↔
    f = ⟨.missingEnd (Text.lower tag.name), '<' :: u⟩ ∧ ∀ e, ¬First (Text.lower tag.name).Alike inside e
  own : ∀ w, Text.lower w = Text.lower tag.name → ((Text.lower tag.name).Alike w ↔ '\u0130' ∉ w)
  agrees : (∀ t e, First (Text.lower tag.name).Alike t e ↔ First (fun w => Text.lower w = Text.lower tag.name) t e) ↔
    ∀ c ∈ Text.lower tag.name, Text.sharesUpper c = false
  ascii : (∀ c ∈ tag.name, c.toNat < 128) → (∀ c ∈ inside, c ≠ '\u0130' ∧ c ≠ 'ı' ∧ c ≠ 'ſ') →
    ∀ e, First (Text.lower tag.name).Alike inside e ↔ First (fun w => Text.lower w = Text.lower tag.name) inside e

theorem solid_name_of_read? {tag : OpeningTag} {t rest : Text} (h : read? t = some (tag, rest)) : tag.name.Solid := by
  obtain ⟨as, u, hwritten, -⟩ := read?_eq_some_iff.1 h
  cases hwritten with
  | mk hname _ _ =>
    obtain ⟨c, name, rfl, hc, hrun⟩ := hname
    have hsolid {c : Char} (hc : isTagNameChar c = true) : isBlank c = false := by
      simp only [isTagNameChar, Bool.and_eq_true, Bool.not_eq_true'] at hc
      exact hc.1.1
    have hplain : isPlainNameChar c = true := by simp [isPlainNameChar, hc]
    exact List.forall_mem_cons.2 ⟨not_blank_of_plain hplain, fun d hd => hsolid (hrun d hd)⟩

/-- The end of raw text is found by the letters of the name. -/
theorem rawEnd_of_read {tag : OpeningTag} {u inside : Text} (h : read? ('<' :: u) = some (tag, inside))
    (hopen : tag.selfClosing = false) : tag.RawEnd u inside := by
  have hown (w : Text) (hw : Text.lower w = Text.lower tag.name) :
      (Text.lower tag.name).Alike w ↔ '\u0130' ∉ w := hw ▸ Text.alike_lower_iff
  refine ⟨fun hhtml e => ?_, fun hhtml f => ?_, fun hraw k rest => ?_, fun hraw f => ?_, hown,
    EndTag.first_alike_lower_iff (solid_name_of_read? h), fun hname hinside e => ?_⟩
  · rw [Block.findEnd_raw hopen hhtml, ← EndTag.find?_eq_some_iff]
    cases EndTag.find? (Text.lower tag.name) inside <;> simp
  · rw [Block.findEnd_raw hopen hhtml, ← EndTag.find?_eq_none_iff_first]
    cases EndTag.find? (Text.lower tag.name) inside <;> simp [eq_comm]
  · simp only [Token.readTag_raw h hopen hraw, ← EndTag.find?_eq_some_iff]
    cases EndTag.find? (Text.lower tag.name) inside <;> simp [eq_comm]
  · rw [Token.readTag_raw h hopen hraw, ← EndTag.find?_eq_none_iff_first]
    cases EndTag.find? (Text.lower tag.name) inside <;> simp [eq_comm]
  · refine EndTag.first_congr fun w hw => ⟨fun halike => ?_, fun hlower => ?_⟩
    · exact (Text.alike_ascii hname halike).2 fun c hc => hinside c (hw hc)
    · exact (hown w hlower).2 fun hdotted => (hinside _ (hw hdotted)).1 rfl

theorem rawEnd_of_read_mixedCase :
    read? "<b>x</B >y".toList = some (⟨"b".toList, [], false⟩, "x</B >y".toList) ∧
      RawEnd ⟨"b".toList, [], false⟩ "b>x</B >y".toList "x</B >y".toList := by
  have h : read? "<b>x</B >y".toList = some (⟨"b".toList, [], false⟩, "x</B >y".toList) := by decide +kernel
  exact ⟨h, rawEnd_of_read h rfl⟩

def dotted : Text := "<x\u0130>a</x\u0130>".toList

/-- A script with another end tag in it, spelled with a small I without a dot. -/
def dotless : Text := "<script>a</scr\u0131pt>b</script>".toList

/-- The end tag that is spelled like the name of its block does not close it, and one whose name differs closes a
script. Neither text is a component. -/
theorem rawEnd_differs :
    (∃ tag, read? dotted = some (tag, "a</x\u0130>".toList) ∧ Text.lower tag.name = "xi\u0307".toList ∧
      First (fun w => Text.lower w = Text.lower tag.name) "a</x\u0130>".toList ⟨"</x\u0130>".toList, []⟩ ∧
      Block.findEnd tag dotted "a</x\u0130>".toList = .error ⟨.missingEnd "xi\u0307".toList, dotted⟩) ∧
    (∃ tag start rest w, read? dotless = some (tag, 'a' :: start) ∧ Text.lower tag.name = "script".toList ∧
      Block.findEnd tag dotless ('a' :: start) = .ok ⟨start, rest⟩ ∧ ClosingTag.read? start = some (w, rest) ∧
      Text.lower w ≠ "script".toList) ∧
    (¬∃ c, Component.ofText dotted = .ok c) ∧ ¬∃ c, Component.ofText dotless = .ok c := by
  have not_component {t : Text} (h : (Component.ofText t).toOption = none) : ¬∃ c, Component.ofText t = .ok c := by
    rintro ⟨c, hc⟩
    rw [hc] at h
    cases h
  refine ⟨⟨⟨"x\u0130".toList, [], false⟩, by decide +kernel, by decide +kernel, ⟨?_, ['a'], by decide, ?_⟩,
    by decide +kernel⟩, ⟨⟨"script".toList, [], false⟩, "</scr\u0131pt>b</script>".toList, "b</script>".toList,
    "scr\u0131pt".toList, by decide +kernel, by decide, by decide +kernel, by decide, by decide +kernel⟩,
    not_component (by decide +kernel), not_component (by decide +kernel)⟩
  · exact ⟨"x\u0130".toList, [], rfl, Text.blank_nil, by decide⟩
  · -- in front of the tag there is one letter, and no tag starts with that
    intro u v rest ht hlt hstands
    obtain rfl : u = [] := List.length_eq_zero_iff.1 (Nat.lt_one_iff.1 hlt)
    obtain ⟨w, gap, -, -, rfl⟩ := hstands
    exact absurd (List.cons.inj ht).1 (by decide)

end OpeningTag

end ComponentFormat
