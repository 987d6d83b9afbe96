import ComponentFormat.Proofs.Balance
import ComponentFormat.Proofs.TagGrammar
import ComponentFormat.Proofs.Delimiters

/-! # Where an interpolation ends

The search for the end of a template passes over an interpolation, whatever stands in it. It holds back where the
template could end inside, but knows an end tag by its spelling in lower case alone, while a template ends at one in any
letter case. Braces in front of an end tag in lower case mean the same whatever follows the tag; in front of any other
they do only if they are closed, or hidden by a tag in lower case, before it (`Template.interpolations_end`).
-/
namespace ComponentFormat

namespace Text

/-- What ends in a character that the back of a text does not have stands in front of that back. -/
theorem contains_append_back (needle : Text) {e u : Text} {c : Char} (hc : c ∉ u)
    (h : contains (needle ++ [c]) e = false) : contains (needle ++ [c]) (e ++ u) = false := by
  rw [contains_eq_false_iff] at h ⊢
  intro a b heq
  rcases List.append_eq_append_iff.1 heq with ⟨z, hz, rfl⟩ | ⟨z, rfl, rfl⟩
  · -- the needle reaches into `u` with its last character, or not at all
    rcases List.eq_nil_or_concat z with rfl | ⟨z, d, rfl⟩
    · exact h a [] (by rw [List.append_nil, hz, List.append_nil])
    · rw [List.concat_eq_append, ← List.append_assoc, ← List.append_assoc] at hz
      have hd := (List.append_inj' hz rfl).2
      cases hd
      exact hc (by simp)
  · exact h a z rfl

theorem contains_append_front (needle : Text) {e u : Text} {c : Char} (hc : c ∉ u)
    (h : contains (c :: needle) e = false) : contains (c :: needle) (u ++ e) = false := by
  rw [contains_eq_false_iff] at h ⊢
  intro a b heq
  rw [List.append_assoc] at heq
  rcases List.append_eq_append_iff.1 heq with ⟨z, rfl, rfl⟩ | ⟨z, rfl, hz⟩
  · exact h z b (by rw [List.append_assoc])
  · cases z with
    | nil => exact h [] b (by simpa using hz.symm)
    | cons d z =>
      cases (List.cons.inj hz).1
      exact hc (by simp)

/-- A needle that starts with a character, and does not have it again, overlaps no later place of that character. -/
theorem contains_append_cons (needle : Text) {x m : Text} {c : Char} (hn : c ∉ needle) (hm : c ∉ m)
    (hx : contains (c :: needle) x = false) (hnot : ¬ needle <+: m) :
    contains (c :: needle) (x ++ c :: m) = false := by
  rw [contains_eq_false_iff] at hx ⊢
  intro a b heq
  rw [List.append_assoc] at heq
  rcases List.append_eq_append_iff.1 heq with ⟨z, rfl, hz⟩ | ⟨z, rfl, hz⟩
  · cases z with
    | nil => exact hnot ⟨b, (List.cons.inj hz).2.symm⟩
    | cons d z =>
      rw [(List.cons.inj hz).2] at hm
      simp at hm
  · cases z with
    | nil => exact hnot ⟨b, (List.cons.inj hz).2⟩
    | cons d z =>
      rcases List.append_eq_append_iff.1 hz with ⟨y, hy, -⟩ | ⟨y, hy, hm'⟩
      · exact hx a y (by rw [hy, List.append_assoc])
      · cases y with
        | nil => exact hx a [] (by rw [hy, List.append_nil, List.append_nil])
        | cons e y =>
          rw [(List.cons.inj hy).2, ← (List.cons.inj hm').1] at hn
          simp at hn

theorem First.append {needle before rest t : Text} (h : First needle before rest t) (u : Text) :
    First needle before (rest ++ u) (t ++ u) := by
  refine ⟨by rw [h.text]; simp, fun a b hab => ?_⟩
  by_contra hlt
  have htext := h.text
  have hle : (a ++ needle).length ≤ t.length := by
    rw [htext, List.length_append, List.length_append, List.length_append]
    omega
  have hfront : a ++ needle <+: t ++ u := ⟨b, hab.symm⟩
  obtain ⟨z, hz⟩ := List.prefix_of_prefix_length_le hfront (List.prefix_append t u) hle
  exact hlt (h.least a z hz.symm)

theorem First.unique {needle before before' rest rest' t : Text} (h : First needle before rest t)
    (h' : First needle before' rest' t) : before = before' ∧ rest = rest' := by
  rw [← cut?_eq_some_iff] at h h'
  rw [h] at h'
  exact Prod.mk.inj (Option.some.inj h')

end Text

theorem ClosingTag.Closes.exists_bracket {name tag : Text} (h : Closes name tag)
    (hname : ∀ c ∈ name, isPlainNameChar c = true) : ∃ m, tag = '<' :: m ∧ '<' ∉ m := by
  obtain ⟨w, gap, hw, hgap, rfl⟩ := h
  refine ⟨_, rfl, ?_⟩
  have hword : '<' ∉ w := fun hm => ((hw.matches_of_plain hname).clean _ hm).2 (by decide)
  have hblank : '<' ∉ gap := fun hm => by simpa using (hgap _ hm).symm.trans (by decide : isBlank '<' = false)
  simp [hword, hblank]

namespace Template
open Token (Heads)
open ClosingTag (Closes)

/-- What an end tag of a template starts with if its name is written in lower case. -/
def endMark : Text := "</template".toList

/-- The search for the end of a template, with `t` behind its opening tag, comes to an interpolation and passes over
`skipped`, after which `rest` is left. -/
def Skips (t skipped rest : Text) : Prop :=
  ∃ opened, LeavesOpen t opened (skipped ++ rest) ∧ Heads (.inert .interpolation) (skipped ++ rest) rest

/-- What follows `tag` has no say in whether the braces in front of `inside` open an interpolation, nor in where it
ends: either they do, and it ends in front of the tag, or they do not. -/
def Settled (inside tag : Text) : Prop :=
  (∃ rest, ∀ after, Heads (.inert .interpolation) ('{' :: '{' :: (inside ++ tag ++ after)) (rest ++ tag ++ after)) ∨
    ∀ after rest, ¬Heads (.inert .interpolation) ('{' :: '{' :: (inside ++ tag ++ after)) rest

/-- The search comes to the interpolation and goes on behind it, with the same elements open. -/
theorem Skips.exists_findEnd {t skipped rest : Text} (h : Skips t skipped rest) (root : Text) :
    ∃ opened, findEnd root [] t = findEnd root opened (skipped ++ rest) ∧
      findEnd root [] t = findEnd root opened rest := by
  obtain ⟨opened, hopen, hskip⟩ := h
  exact ⟨opened, findEnd_leavesOpen hopen, findEnd_leavesOpen (hopen.inert hskip)⟩

/-- An interpolation ends with the first braces that close, and there is no mark in front of them. -/
theorem heads_interpolation_iff {inside rest : Text} : Heads (.inert .interpolation) ('{' :: '{' :: inside) rest ↔
    ∃ e, Text.First ['}', '}'] e rest inside ∧ Text.contains endMark e = false := by
  constructor
  · rintro (_ | @⟨_, e, _, h, hend⟩)
    exact ⟨e, h, hend⟩
  · rintro ⟨e, h, hend⟩
    exact .interpolation h hend

theorem Skips.exists_expression {t skipped rest : Text} (h : Skips t skipped rest) :
    ∃ e, skipped = '{' :: '{' :: (e ++ ['}', '}']) ∧ Text.First ['}', '}'] e rest (e ++ ['}', '}'] ++ rest) ∧
      Text.contains endMark e = false := by
  obtain ⟨_, _, hskip⟩ := h
  generalize ht : skipped ++ rest = t at hskip
  cases hskip with
  | @interpolation inside e rest h hend =>
    rw [h.text] at ht h
    have hskipped : skipped ++ rest = '{' :: '{' :: (e ++ ['}', '}']) ++ rest := by
      rw [ht]
      simp
    exact ⟨e, List.append_cancel_right hskipped, h, hend⟩

theorem Skips.contains_endMark {t skipped rest : Text} (h : Skips t skipped rest) :
    Text.contains endMark skipped = false := by
  obtain ⟨e, rfl, -, hend⟩ := h.exists_expression
  have hback : Text.contains endMark (e ++ ['}', '}']) = false :=
    Text.contains_append_back "</templat".toList (c := 'e') (by decide) hend
  exact Text.contains_append_front "/template".toList (u := ['{', '{']) (by decide) hback

/-- Braces that are not closed in `x` open no interpolation if there is a mark in it. -/
theorem not_heads_of_endMark {x : Text} (hmark : Text.contains endMark x = true)
    (hopen : Text.contains ['}', '}'] x = false) (y rest : Text) :
    ¬Heads (.inert .interpolation) ('{' :: '{' :: (x ++ y)) rest := by
  intro h
  obtain ⟨e, hfirst, hend⟩ := heads_interpolation_iff.1 h
  have htext := hfirst.text
  rw [List.append_assoc] at htext
  rcases List.append_eq_append_iff.1 htext with ⟨z, rfl, -⟩ | ⟨z, rfl, hz⟩
  · rw [Text.contains_of_append hend] at hmark
    cases hmark
  · -- at most one of the closing braces is in `x`
    have hshort : 'e' ∉ z := by
      intro hm
      rcases z with _ | ⟨c, _ | ⟨d, z⟩⟩
      · cases hm
      · cases (List.cons.inj hz).1
        revert hm
        decide
      · cases (List.cons.inj hz).1
        cases (List.cons.inj (List.cons.inj hz).2).1
        exact Text.contains_eq_false_iff.1 hopen e z (by simp)
    have hnone : Text.contains endMark (e ++ z) = false :=
      Text.contains_append_back "</templat".toList hshort hend
    rw [hnone] at hmark
    cases hmark

theorem settled_of_braces {inside : Text} (h : Text.contains ['}', '}'] inside = true) (tag : Text) :
    Settled inside tag := by
  obtain ⟨⟨e, rest⟩, hcut⟩ := Option.isSome_iff_exists.1 h
  have hfirst (after : Text) : Text.First ['}', '}'] e (rest ++ tag ++ after) (inside ++ tag ++ after) :=
    ((Text.first_of_cut? hcut).append tag).append after
  cases hend : Text.contains endMark e with
  | false => exact .inl ⟨rest, fun after => .interpolation (hfirst after) hend⟩
  | true =>
    refine .inr fun after rest' hheads => ?_
    obtain ⟨e', hfirst', hend'⟩ := heads_interpolation_iff.1 hheads
    rw [← ((hfirst after).unique hfirst').1, hend] at hend'
    cases hend'

/-- Neither closed in front of the tag nor hidden by a mark, the braces wait for what follows. -/
theorem not_settled {inside tag : Text} (hopen : Text.contains ['}', '}'] inside = false)
    (hmark : Text.contains endMark (inside ++ tag) = false) : ¬Settled inside tag := by
  rintro (⟨rest, h⟩ | h)
  · obtain ⟨e, hfirst, -⟩ := heads_interpolation_iff.1 (h [])
    have htext := hfirst.text
    rw [List.append_nil, List.append_nil, ← List.append_assoc] at htext
    exact Text.contains_eq_false_iff.1 hopen e rest (List.append_cancel_right htext)
  · -- braces behind the tag close it
    have hclosed : Text.contains ['}', '}'] (inside ++ tag ++ ['}', '}']) = true := by
      rw [← Bool.not_eq_false, Text.contains_eq_false_iff]
      exact fun hnone => hnone (inside ++ tag) [] (List.append_nil _).symm
    have hback : Text.contains endMark (inside ++ tag ++ ['}', '}']) = false :=
      Text.contains_append_back "</templat".toList (c := 'e') (by decide) hmark
    obtain ⟨⟨e, rest⟩, hcut⟩ := Option.isSome_iff_exists.1 hclosed
    have hfirst := Text.first_of_cut? hcut
    rw [hfirst.text, List.append_assoc] at hback
    exact h _ rest (.interpolation hfirst (Text.contains_of_append hback))

theorem settled_iff {inside tag : Text} (htag : Closes "template".toList tag) : Settled inside tag ↔
    endMark <+: tag ∨ Text.contains ['}', '}'] inside = true ∨ Text.contains endMark inside = true := by
  constructor
  · intro h
    by_contra! hnone
    obtain ⟨hlower, hopen, hmark⟩ := hnone
    obtain ⟨m, rfl, hm⟩ := htag.exists_bracket (Text.PlainLower.plain (by decide))
    have hnot : ¬"/template".toList <+: m := fun hp => hlower (List.cons_prefix_cons.2 ⟨rfl, hp⟩)
    exact not_settled (Bool.eq_false_iff.2 hopen) (Text.contains_append_cons "/template".toList
      (by decide) hm (Bool.eq_false_iff.2 hmark) hnot) h
  · intro h
    by_cases hopen : Text.contains ['}', '}'] inside = true
    · exact settled_of_braces hopen tag
    rw [Bool.not_eq_true] at hopen
    rcases h with ⟨z, rfl⟩ | hclosed | hmark
    · have hback : Text.contains ['}', '}'] (inside ++ endMark) = false :=
        Text.contains_append_back ['}'] (c := '}') (by decide) hopen
      have hhas : Text.contains endMark (inside ++ endMark) = true := by
        rw [← Bool.not_eq_false, Text.contains_eq_false_iff]
        exact fun hnone => hnone inside [] (List.append_nil _).symm
      refine .inr fun after rest => ?_
      have := not_heads_of_endMark hhas hback (z ++ after) rest
      simpa using this
    · rw [hclosed] at hopen
      cases hopen
    · refine .inr fun after rest => ?_
      rw [List.append_assoc]
      exact not_heads_of_endMark hmark hopen (tag ++ after) rest

theorem closes_of_findEnd {root t : Text} {e : EndTag} (h : findEnd root [] t = .ok e) :
    ∃ tag, Closes "template".toList tag ∧ e.start = tag ++ e.rest := by
  obtain ⟨-, hclose⟩ := ((findEnd_iff root t).1 e).1 h
  obtain ⟨w, hread, hlower⟩ := hclose.exists_closing
  exact ClosingTag.closes_of_read? hread hlower (by decide)

/-- What the search passes over as an interpolation, to go on behind it, reaches from two braces to the first two that
close, and the end tags of a template that it has in it are not in lower case. A template ends at such a tag, in any
letter case. What follows the tag has a say in where braces in front of it end, unless the tag is in lower case, or
between the two the braces are closed or hidden by such a tag. -/
theorem interpolations_end (root t : Text) :
    (∀ skipped rest, Skips t skipped rest →
      (∃ opened, findEnd root [] t = findEnd root opened (skipped ++ rest) ∧
        findEnd root [] t = findEnd root opened rest) ∧
      (∃ e, skipped = '{' :: '{' :: (e ++ ['}', '}']) ∧ Text.First ['}', '}'] e rest (e ++ ['}', '}'] ++ rest)) ∧
      ∀ a tag b, skipped = a ++ tag ++ b → Closes "template".toList tag → ¬endMark <+: tag) ∧
    (∀ e, findEnd root [] t = .ok e → ∃ tag, Closes "template".toList tag ∧ e.start = tag ++ e.rest) ∧
    ∀ inside tag, Closes "template".toList tag → (Settled inside tag ↔
      endMark <+: tag ∨ Text.contains ['}', '}'] inside = true ∨ Text.contains endMark inside = true) := by
  refine ⟨fun skipped rest h => ⟨h.exists_findEnd root, ?_, ?_⟩, fun e => closes_of_findEnd,
    fun inside tag => settled_iff⟩
  · obtain ⟨e, hskipped, hfirst, -⟩ := h.exists_expression
    exact ⟨e, hskipped, hfirst⟩
  · rintro a _ b rfl - ⟨z, rfl⟩
    exact Text.contains_eq_false_iff.1 h.contains_endMark a (z ++ b) (by simp)

/-- A template that ends in capitals, and closing braces in the script behind it. -/
def capitalEnd : Text := "\x7b\x7b a </TEMPLATE>\n<script>b \x7d\x7d</script>\n".toList

/-- The interpolation runs past the end of its template into the script, and there is no component. Without the braces
in the script there is one, with the template that ends in front of it. -/
theorem interpolation_overruns :
    (∃ skipped rest a tag b, Skips capitalEnd skipped rest ∧ skipped = a ++ tag ++ b ∧
      Closes "template".toList tag) ∧
    ¬Settled " a ".toList "</TEMPLATE>".toList ∧
    (¬∃ c, Component.ofText ("<template>".toList ++ capitalEnd) = .ok c) ∧
    ∃ c, Component.ofText "<template>\x7b\x7b a </TEMPLATE>\n<script>b</script>\n".toList = .ok c ∧
      c.blocks.map (·.block.content) = ["\x7b\x7b a ".toList, "b".toList] := by
  have hcloses : Closes "template".toList "</TEMPLATE>".toList := by
    obtain ⟨w, hw, he⟩ := Text.afterCaseless?_iff.1
      (by decide +kernel : Text.afterCaseless? "template".toList "TEMPLATE".toList = some [])
    rw [List.append_nil] at he
    exact ⟨w, [], hw, Text.blank_nil, by rw [← he]; decide⟩
  refine ⟨⟨"\x7b\x7b a </TEMPLATE>\n<script>b \x7d\x7d".toList, "</script>\n".toList, "\x7b\x7b a ".toList,
    "</TEMPLATE>".toList, "\n<script>b \x7d\x7d".toList, ⟨[], .nil (.nil _), ?_⟩, by decide, hcloses⟩, ?_, ?_, ?_⟩
  · exact .interpolation (e := " a </TEMPLATE>\n<script>b ".toList) (Text.first_of_cut? (by decide)) (by decide)
  · rw [settled_iff hcloses]
    decide
  · rintro ⟨c, hc⟩
    have hnone : (Component.ofText ("<template>".toList ++ capitalEnd)).toOption = none := by decide +kernel
    rw [hc] at hnone
    cases hnone
  · have hblocks : (Component.ofText "<template>\x7b\x7b a </TEMPLATE>\n<script>b</script>\n".toList).toOption.map
        (·.blocks.map (·.block.content)) = some ["\x7b\x7b a ".toList, "b".toList] := by decide +kernel
    obtain ⟨c, hc, hcontent⟩ := Option.map_eq_some_iff.1 hblocks
    exact ⟨c, ok_of_toOption hc, hcontent⟩

end Template

end ComponentFormat
