import ComponentFormat.Proofs.Nesting

/-! # The balance of a template

A relation says what stands at the front of a text: a comment, an interpolation, a tag, an element that opens nothing,
or a mark of no meaning. The end of a template is the one closing tag of its name that is reached with every element
closed inside the one around it, and where there is none the failure says which token stood in the way
(`Template.findEnd_iff`).
-/
namespace ComponentFormat

namespace Text

/-- `needle` stands between `before` and `rest`, and nowhere further to the front. -/
structure First (needle before rest t : Text) : Prop where
  text : t = before ++ needle ++ rest
  least : ∀ a b, t = a ++ needle ++ b → before.length ≤ a.length

theorem first_of_cut? {needle t before rest : Text} (h : cut? needle t = some (before, rest)) :
    First needle before rest t := by
  refine ⟨append_of_cut?_eq_some h, fun a b ht => ?_⟩
  induction t generalizing before a with
  | nil =>
    obtain ⟨r, -, he⟩ := Option.map_eq_some_iff.1 h
    cases he
    exact Nat.zero_le _
  | cons c t ih =>
    rw [cut?] at h
    split at h
    · cases h
      exact Nat.zero_le _
    · next hn =>
      obtain ⟨⟨p, q⟩, hp, he⟩ := Option.map_eq_some_iff.1 h
      cases he
      cases a with
      | nil => exact absurd (hn.symm.trans (after?_eq_some_iff.2 ht)) (by simp)
      | cons d a => exact Nat.succ_le_succ (ih hp a (List.cons.inj ht).2)

theorem cut?_eq_some_iff {needle t before rest : Text} :
    cut? needle t = some (before, rest) ↔ First needle before rest t := by
  refine ⟨first_of_cut?, fun h => ?_⟩
  have hsome : contains needle t = true := by
    rw [← Bool.not_eq_false, contains_eq_false_iff]
    exact fun hnone => hnone before rest h.text
  obtain ⟨⟨p, q⟩, hcut⟩ := Option.isSome_iff_exists.1 hsome
  have hp := first_of_cut? hcut
  have hlen := Nat.le_antisymm (hp.least _ _ h.text) (h.least _ _ hp.text)
  have htext := hp.text.symm.trans h.text
  rw [List.append_assoc, List.append_assoc] at htext
  obtain ⟨rfl, hrest⟩ := List.append_inj htext hlen
  rw [hcut, List.append_cancel_left hrest]

theorem cut?_eq_none_iff {needle t : Text} : cut? needle t = none ↔ contains needle t = false := by
  rw [contains, Option.isSome_eq_false_iff, Option.isNone_iff_eq_none]

end Text

namespace Token

/-- What stands at the front of the first text, the second being what follows it. -/
inductive Heads : Token → Text → Text → Prop
  | comment {inside c rest : Text} (h : Text.First "-->".toList c rest inside) :
      Heads (.inert .comment) ("<!--".toList ++ inside) rest
  | interpolation {inside e rest : Text} (h : Text.First ['}', '}'] e rest inside)
      (hend : Text.contains "</template".toList e = false) : Heads (.inert .interpolation) ('{' :: '{' :: inside) rest
  | closing {t name rest : Text} (h : ClosingTag.read? t = some (name, rest)) :
      Heads (.closing (Text.lower name)) t rest
  | leaf {t rest : Text} {tag : OpeningTag} (h : OpeningTag.read? t = some (tag, rest))
      (hleaf : tag.selfClosing = true ∨ isVoid (Text.lower tag.name) = true) : Heads (.inert .leaf) t rest
  | raw {t inside : Text} {tag : OpeningTag} {e : EndTag} (h : OpeningTag.read? t = some (tag, inside))
      (hopen : tag.selfClosing = false) (hraw : isRawText (Text.lower tag.name) = true)
      (hend : EndTag.find? (Text.lower tag.name) inside = some e) : Heads (.inert .leaf) t e.rest
  | opening {t rest : Text} {tag : OpeningTag} (h : OpeningTag.read? t = some (tag, rest))
      (hopen : tag.selfClosing = false) (hvoid : isVoid (Text.lower tag.name) = false)
      (hraw : isRawText (Text.lower tag.name) = false) : Heads (.opening (Text.lower tag.name)) t rest
  | character {c : Char} {t : Text} (hc : c ≠ '<') (hbraces : ∀ inside, c :: t ≠ '{' :: '{' :: inside) :
      Heads (.inert .other) (c :: t) t
  | braces {inside : Text}
      (h : ∀ e rest, Text.First ['}', '}'] e rest inside → Text.contains "</template".toList e = true) :
      Heads (.inert .other) ('{' :: '{' :: inside) inside
  | stroke {inside : Text} (h : ClosingTag.read? ('<' :: '/' :: inside) = none) :
      Heads (.inert .other) ('<' :: '/' :: inside) inside
  | bracket {t : Text} (hcomment : ∀ inside, t ≠ "!--".toList ++ inside) (hstroke : ∀ inside, t ≠ '/' :: inside)
      (h : OpeningTag.read? ('<' :: t) = none) : Heads (.inert .other) ('<' :: t) t

/-- What stands at the front of the text never ends. -/
inductive Endless : Text → Fault → Prop
  | comment {inside : Text} (h : Text.contains "-->".toList inside = false) :
      Endless ("<!--".toList ++ inside) .unterminatedComment
  | raw {t inside : Text} {tag : OpeningTag} (h : OpeningTag.read? t = some (tag, inside))
      (hopen : tag.selfClosing = false) (hraw : isRawText (Text.lower tag.name) = true)
      (hend : EndTag.find? (Text.lower tag.name) inside = none) : Endless t (.missingEnd (Text.lower tag.name))

theorem afterInterpolation?_eq_some_iff {t rest : Text} : afterInterpolation? t = some rest ↔
    ∃ e, Text.First ['}', '}'] e rest t ∧ Text.contains "</template".toList e = false := by
  unfold afterInterpolation?
  split
  · next hcut => simp [← Text.cut?_eq_some_iff, hcut]
  · next e u hcut =>
    have hfirst {e' : Text} : Text.First ['}', '}'] e' rest t ↔ e = e' ∧ u = rest := by
      rw [← Text.cut?_eq_some_iff, hcut, Option.some.injEq, Prod.mk.injEq]
    constructor
    · intro h
      split at h
      · cases h
      · next hend =>
        cases h
        exact ⟨e, hfirst.2 ⟨rfl, rfl⟩, Bool.eq_false_iff.2 hend⟩
    · rintro ⟨e', h, hend⟩
      obtain ⟨rfl, rfl⟩ := hfirst.1 h
      rw [if_neg (Bool.eq_false_iff.1 hend)]

def Answers (t : Text) : Except Failure (Token × Text) → Prop
  | .ok (k, rest) => Heads k t rest
  | .error f => f.rest = t ∧ Endless t f.fault

theorem answers_readTag (t : Text) : Answers ('<' :: t) (readTag t) := by
  by_cases hcomment : ∃ inside, t = "!--".toList ++ inside
  · obtain ⟨inside, rfl⟩ := hcomment
    rw [readTag_comment]
    cases hcut : Text.cut? "-->".toList inside with
    | none => exact ⟨rfl, .comment (Text.cut?_eq_none_iff.1 hcut)⟩
    | some p => exact .comment (Text.first_of_cut? hcut)
  by_cases hstroke : ∃ inside, t = '/' :: inside
  · obtain ⟨inside, rfl⟩ := hstroke
    rw [readTag_stroke]
    cases hread : ClosingTag.read? ('<' :: '/' :: inside) with
    | none => exact .stroke hread
    | some p => exact .closing hread
  rw [readTag_opening (not_exists.1 hcomment) (not_exists.1 hstroke)]
  cases hread : OpeningTag.read? ('<' :: t) with
  | none => exact .bracket (not_exists.1 hcomment) (not_exists.1 hstroke) hread
  | some p =>
    obtain ⟨tag, rest⟩ := p
    dsimp only
    split
    · next hleaf => exact .leaf hread (by simpa using hleaf)
    · next hleaf =>
      obtain ⟨hopen, hvoid⟩ : tag.selfClosing = false ∧ isVoid (Text.lower tag.name) = false := by simpa using hleaf
      split
      · next hraw =>
        cases hend : EndTag.find? (Text.lower tag.name) rest with
        | none => exact ⟨rfl, .raw hread hopen hraw hend⟩
        | some e => exact .raw hread hopen hraw hend
      · next hraw => exact .opening hread hopen hvoid (Bool.eq_false_iff.2 hraw)

theorem answers_read (c : Char) (t : Text) : Answers (c :: t) (read c t) := by
  unfold read
  split
  · next hlt =>
    subst hlt
    exact answers_readTag t
  · next hlt =>
    split
    · next hbrace =>
      subst hbrace
      split
      · next inside =>
        cases hafter : afterInterpolation? inside with
        | some rest =>
          obtain ⟨e, hfirst, hend⟩ := afterInterpolation?_eq_some_iff.1 hafter
          exact .interpolation hfirst hend
        | none =>
          refine .braces fun e rest hfirst => ?_
          cases hend : Text.contains "</template".toList e with
          | true => rfl
          | false =>
            rw [afterInterpolation?_eq_some_iff.2 ⟨e, hfirst, hend⟩] at hafter
            cases hafter
      · next hne => exact .character hlt fun inside h => hne inside (List.cons.inj h).2
    · next hbrace => exact .character hlt fun inside h => hbrace (List.cons.inj h).1

theorem Heads.exists_read {k : Token} {t rest : Text} (h : Heads k t rest) :
    ∃ c u, t = c :: u ∧ read c u = .ok (k, rest) := by
  cases h with
  | @comment inside c rest h =>
    exact ⟨'<', _, rfl, (readTag_comment inside).trans (by rw [Text.cut?_eq_some_iff.2 h])⟩
  | @interpolation inside e rest h hend =>
    exact ⟨'{', _, rfl, (read_braces inside).trans (by rw [afterInterpolation?_eq_some_iff.2 ⟨e, h, hend⟩])⟩
  | @closing t name rest h =>
    obtain ⟨u, rfl⟩ := exists_stroke_of_read? h
    exact ⟨'<', _, rfl, (readTag_stroke u).trans (by rw [h])⟩
  | @leaf t rest tag h hleaf =>
    obtain ⟨u, rfl, hcomment, hstroke⟩ := exists_bracket_of_read? h
    refine ⟨'<', u, rfl, (readTag_opening hcomment hstroke).trans ?_⟩
    rw [h]
    exact if_pos (by simpa using hleaf)
  | @raw t inside tag e h hopen hraw hend =>
    obtain ⟨u, rfl, hcomment, hstroke⟩ := exists_bracket_of_read? h
    refine ⟨'<', u, rfl, (readTag_opening hcomment hstroke).trans ?_⟩
    rw [h]
    simp only [hopen, not_isVoid_of_isRawText hraw, hraw, hend, Bool.or_self, Bool.false_eq_true, if_false, if_true]
  | @opening t rest tag h hopen hvoid hraw =>
    obtain ⟨u, rfl, hcomment, hstroke⟩ := exists_bracket_of_read? h
    refine ⟨'<', u, rfl, (readTag_opening hcomment hstroke).trans ?_⟩
    rw [h]
    simp only [hopen, hvoid, hraw, Bool.or_self, Bool.false_eq_true, if_false]
  | @character c _ hc hbraces =>
    refine ⟨c, _, rfl, ?_⟩
    unfold read
    rw [if_neg hc]
    split
    · next hbrace =>
      subst hbrace
      split
      · exact absurd rfl (hbraces _)
      · rfl
    · rfl
  | braces h =>
    have hnone : afterInterpolation? rest = none := by
      refine Option.eq_none_iff_forall_ne_some.2 fun u hu => ?_
      obtain ⟨e, hfirst, hend⟩ := afterInterpolation?_eq_some_iff.1 hu
      rw [h e u hfirst] at hend
      cases hend
    exact ⟨'{', _, rfl, (read_braces rest).trans (by rw [hnone])⟩
  | stroke h => exact ⟨'<', _, rfl, (readTag_stroke rest).trans (by rw [h])⟩
  | bracket hcomment hstroke h => exact ⟨'<', rest, rfl, (readTag_opening hcomment hstroke).trans (by rw [h])⟩

theorem Heads.exists_closing {name t rest : Text} (h : Heads (.closing name) t rest) :
    ∃ w, ClosingTag.read? t = some (w, rest) ∧ Text.lower w = name := by
  cases h with
  | closing h => exact ⟨_, h, rfl⟩

theorem Endless.read_eq {t : Text} {fault : Fault} (h : Endless t fault) :
    ∃ c u, t = c :: u ∧ read c u = .error ⟨fault, t⟩ := by
  cases h with
  | @comment inside h => exact ⟨'<', _, rfl, (readTag_comment inside).trans (by rw [Text.cut?_eq_none_iff.2 h])⟩
  | @raw _ inside tag h hopen hraw hend =>
    obtain ⟨u, rfl, hcomment, hstroke⟩ := exists_bracket_of_read? h
    refine ⟨'<', u, rfl, (readTag_opening hcomment hstroke).trans ?_⟩
    rw [h]
    simp only [hopen, not_isVoid_of_isRawText hraw, hraw, hend, Bool.or_self, Bool.false_eq_true, if_false, if_true]

end Token

namespace Template
open Token (Heads)

/-- From the first text up to the second every element that is opened is closed, inside the one around it. -/
inductive Balanced : Text → Text → Prop
  | nil (t : Text) : Balanced t t
  | inert {kind : Inert} {t u v : Text} (h : Heads (.inert kind) t u) (hu : Balanced u v) : Balanced t v
  | element {name t u v w x : Text} (h : Heads (.opening name) t u) (hu : Balanced u v)
      (hv : Heads (.closing name) v w) (hw : Balanced w x) : Balanced t x

/-- From `t` up to the other text the elements in the list stay open, the innermost first. -/
inductive LeavesOpen (t : Text) : List OpenElement → Text → Prop
  | nil {rest : Text} (h : Balanced t rest) : LeavesOpen t [] rest
  | cons {opened : List OpenElement} {name u v rest : Text} (h : LeavesOpen t opened u)
      (hu : Heads (.opening name) u v) (hv : Balanced v rest) : LeavesOpen t (⟨name, u⟩ :: opened) rest

/-- The failure that `t` is when the elements in the list are open: the text is over, what stands at its front never
ends, or that is a closing tag without its opening tag. -/
inductive Breaks (root : Text) : List OpenElement → Text → Failure → Prop
  | ended : Breaks root [] [] ⟨.missingEnd "template".toList, root⟩
  | unclosed (e : OpenElement) (outer : List OpenElement) : Breaks root (e :: outer) [] ⟨.missingEnd e.name, e.start⟩
  | endless {opened : List OpenElement} {t : Text} {fault : Fault} (h : Token.Endless t fault) :
      Breaks root opened t ⟨fault, t⟩
  | stray {t name rest : Text} (h : Heads (.closing name) t rest) (hname : name ≠ "template".toList) :
      Breaks root [] t ⟨.strayClosing name, t⟩
  | misnested {e : OpenElement} {outer : List OpenElement} {t name rest : Text} (h : Heads (.closing name) t rest)
      (hname : e.name ≠ name) : Breaks root (e :: outer) t ⟨.misnested name e.name, t⟩

theorem Balanced.trans {t u v : Text} (h : Balanced t u) (hu : Balanced u v) : Balanced t v := by
  induction h with
  | nil => exact hu
  | inert h _ ih => exact .inert h (ih hu)
  | element h hu' hv _ _ ih => exact .element h hu' hv (ih hu)

namespace LeavesOpen
variable {t u v : Text} {opened : List OpenElement}

theorem trans (h : LeavesOpen t opened u) (hu : Balanced u v) : LeavesOpen t opened v := by
  cases h with
  | nil h => exact .nil (h.trans hu)
  | cons h hopen hv => exact .cons h hopen (hv.trans hu)

theorem inert {kind : Inert} (h : LeavesOpen t opened u) (hu : Heads (.inert kind) u v) : LeavesOpen t opened v :=
  h.trans (.inert hu (.nil v))

theorem close {e : OpenElement} (h : LeavesOpen t (e :: opened) u) (hu : Heads (.closing e.name) u v) :
    LeavesOpen t opened v := by
  cases h with
  | cons h hopen hv => exact h.trans (.element hopen hv hu (.nil v))

end LeavesOpen

variable {root : Text}

theorem findEnd_balanced {t u : Text} (h : Balanced t u) (opened : List OpenElement) :
    findEnd root opened t = findEnd root opened u := by
  induction h generalizing opened with
  | nil => rfl
  | inert h _ ih =>
    obtain ⟨c, t, rfl, hread⟩ := h.exists_read
    rw [findEnd_inert hread, ih]
  | element h _ hv _ ihu ihw =>
    obtain ⟨c, t, rfl, hread⟩ := h.exists_read
    obtain ⟨d, v, rfl, hclose⟩ := hv.exists_read
    rw [findEnd_opening hread, ihu, findEnd_closing hclose, ihw]

/-- The search goes on from where elements are left open. -/
theorem findEnd_leavesOpen {t u : Text} {opened : List OpenElement} (h : LeavesOpen t opened u) :
    findEnd root [] t = findEnd root opened u := by
  induction h with
  | nil h => exact findEnd_balanced h []
  | cons _ hopen hv ih =>
    obtain ⟨c, u, rfl, hread⟩ := hopen.exists_read
    rw [ih, findEnd_opening hread, findEnd_balanced hv]

theorem findEnd_stray {c : Char} {t rest name : Text} (h : Token.read c t = .ok (.closing name, rest))
    (hname : name ≠ "template".toList) : findEnd root [] (c :: t) = .error ⟨.strayClosing name, c :: t⟩ := by
  rw [findEnd.eq_def]
  dsimp only
  split <;> next h' =>
    rw [h] at h'
    cases h'
    try exact if_neg hname

theorem findEnd_misnested {c : Char} {t rest name : Text} (h : Token.read c t = .ok (.closing name, rest))
    {e : OpenElement} (hname : e.name ≠ name) (outer : List OpenElement) :
    findEnd root (e :: outer) (c :: t) = .error ⟨.misnested name e.name, c :: t⟩ := by
  rw [findEnd.eq_def]
  dsimp only
  split <;> next h' =>
    rw [h] at h'
    cases h'
    try exact if_neg hname

theorem findEnd_endless {c : Char} {t : Text} {f : Failure} (h : Token.read c t = .error f)
    (opened : List OpenElement) : findEnd root opened (c :: t) = .error f := by
  rw [findEnd.eq_def]
  dsimp only
  split <;> next h' =>
    rw [h] at h'
    cases h'
    try rfl

theorem Breaks.findEnd_eq {t : Text} {opened : List OpenElement} {f : Failure} (h : Breaks root opened t f) :
    findEnd root opened t = .error f := by
  cases h with
  | ended => rw [findEnd]
  | unclosed e outer => rw [findEnd]
  | endless h =>
    obtain ⟨c, u, rfl, hread⟩ := h.read_eq
    exact findEnd_endless hread opened
  | stray h hname =>
    obtain ⟨c, u, rfl, hread⟩ := h.exists_read
    exact findEnd_stray hread hname
  | misnested h hname =>
    obtain ⟨c, u, rfl, hread⟩ := h.exists_read
    exact findEnd_misnested hread hname _

/-- Where the search ends that has left the elements `opened` open so far. -/
theorem findEnd_sound (root : Text) {t u : Text} {opened : List OpenElement} (h : LeavesOpen t opened u) :
    match findEnd root opened u with
    | .ok e => Balanced t e.start ∧ Heads (.closing "template".toList) e.start e.rest
    | .error f => ∃ opened rest, LeavesOpen t opened rest ∧ Breaks root opened rest f := by
  have heads {c : Char} {u rest : Text} {k : Token} (hr : Token.read c u = .ok (k, rest)) :
      Heads k (c :: u) rest := by
    have := Token.answers_read c u
    rwa [hr] at this
  fun_induction findEnd root opened u with
  | case1 => exact ⟨_, _, h, .ended⟩
  | case2 e outer => exact ⟨_, _, h, .unclosed e outer⟩
  | case3 opened c u f hr =>
    obtain ⟨fault, rest⟩ := f
    have hend := Token.answers_read c u
    rw [hr] at hend
    obtain ⟨rfl, hend⟩ := hend
    exact ⟨_, _, h, .endless hend⟩
  | case4 opened c u kind rest hr ih => exact ih (h.inert (heads hr))
  | case5 opened c u name rest hr ih => exact ih (.cons h (heads hr) (.nil rest))
  | case6 c u rest hr =>
    cases h with
    | nil h => exact ⟨h, heads hr⟩
  | case7 c u name rest hr hname => exact ⟨_, _, h, .stray (heads hr) hname⟩
  | case8 c u rest e outer hr ih => exact ih (h.close (heads hr))
  | case9 c u name rest hr e outer hname => exact ⟨_, _, h, .misnested (heads hr) hname⟩

/-- The search finds exactly the closing tag of the template's name that is reached with every element closed, of
which there is only one. It fails where the text is over too early, a comment or raw text never ends, or a closing tag
meets no open element or one of another name. -/
theorem findEnd_iff (root t : Text) :
    (∀ e, findEnd root [] t = .ok e ↔
      Balanced t e.start ∧ Heads (.closing "template".toList) e.start e.rest) ∧
    (∀ e e' : EndTag, Balanced t e.start → Heads (.closing "template".toList) e.start e.rest →
      Balanced t e'.start → Heads (.closing "template".toList) e'.start e'.rest → e = e') ∧
    ∀ f, findEnd root [] t = .error f ↔ ∃ opened rest, LeavesOpen t opened rest ∧ Breaks root opened rest f := by
  have hsound := findEnd_sound root (.nil (.nil t))
  have hfound {e : EndTag} (hb : Balanced t e.start) (hclose : Heads (.closing "template".toList) e.start e.rest) :
      findEnd root [] t = .ok e := by
    obtain ⟨c, u, hu, hread⟩ := hclose.exists_read
    rw [findEnd_balanced hb, hu, findEnd_root hread, ← hu]
  refine ⟨fun e => ⟨fun h => ?_, fun h => hfound h.1 h.2⟩, fun e e' hb hclose hb' hclose' => ?_,
    fun f => ⟨fun h => ?_, ?_⟩⟩
  · rwa [h] at hsound
  · have := (hfound hb hclose).symm.trans (hfound hb' hclose')
    exact Except.ok.inj this
  · rwa [h] at hsound
  · rintro ⟨opened, rest, hopen, hbreak⟩
    rw [findEnd_leavesOpen hopen, hbreak.findEnd_eq]

end Template

end ComponentFormat
