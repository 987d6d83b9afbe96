import ComponentFormat.Proofs.Spelling

/-! # Well-nested templates

The content of a template is plain text between comments, interpolations, elements without content or with raw content,
and elements whose content is well nested again. The balance passes over such content whatever follows it and whatever
is open in front of it (`Template.findEnd_nested`).
-/
namespace ComponentFormat

namespace Text

theorem after?_eq_none {needle t : Text} (h : ∀ rest, t ≠ needle ++ rest) : after? needle t = none :=
  Option.eq_none_iff_forall_ne_some.2 fun rest hr => h rest (after?_eq_some_iff.1 hr)

theorem contains_cons {needle t : Text} {c : Char} (h : contains needle (c :: t) = false) :
    after? needle (c :: t) = none ∧ contains needle t = false := by
  unfold contains at h ⊢
  rw [cut?] at h
  split at h
  · cases h
  · next hn => simpa [hn] using h

theorem contains_eq_false_iff {needle t : Text} :
    contains needle t = false ↔ ∀ a b, t ≠ a ++ needle ++ b := by
  constructor
  · rintro h a b rfl
    induction a with
    | nil =>
      have hafter : after? needle (needle ++ b) = some b := after?_eq_some_iff.2 rfl
      cases hn : needle ++ b with
      | nil =>
        obtain ⟨rfl, rfl⟩ := List.append_eq_nil_iff.1 hn
        simp [contains, cut?, after?] at h
      | cons c t =>
        simp only [List.nil_append, hn] at h
        have := (contains_cons h).1
        rw [← hn, hafter] at this
        cases this
    | cons c a ih => exact ih (contains_cons h).2
  · intro h
    refine Bool.eq_false_iff.2 fun hc => ?_
    obtain ⟨⟨a, b⟩, hab⟩ := Option.isSome_iff_exists.1 hc
    exact h a b (append_of_cut?_eq_some hab)

theorem contains_of_append {needle a b : Text} (h : contains needle (a ++ b) = false) :
    contains needle a = false := by
  rw [contains_eq_false_iff] at h ⊢
  rintro u v rfl
  exact h u (v ++ b) (by simp)

/-- The first end of a comment is the one behind a text without one, since it cannot start inside. -/
theorem cut?_comment {c : Text} (h : contains "-->".toList c = false) (rest : Text) :
    cut? "-->".toList (c ++ ('-' :: '-' :: '>' :: rest)) = some (c, rest) := by
  induction c with
  | nil => rfl
  | cons x c ih =>
    obtain ⟨hx, hc⟩ := contains_cons h
    have hnone : after? "-->".toList (x :: (c ++ ('-' :: '-' :: '>' :: rest))) = none := by
      simp only [String.reduceToList] at hx ⊢
      rcases c with _ | ⟨y, _ | ⟨z, c⟩⟩
      · simp [after?]
      · simp [after?]
      · simpa [after?] using hx
    rw [List.cons_append, cut?, hnone]
    dsimp only
    rw [ih hc, Option.map_some]

/-- An interpolation ends with its first two closing braces; a third in front of the end is left over. -/
theorem cut?_braces {e : Text} (h : contains ['}', '}'] e = false) (rest : Text) :
    ∃ inner left : Text, e = inner ++ left ∧ (left = [] ∨ left = ['}']) ∧
      cut? ['}', '}'] (e ++ ('}' :: '}' :: rest)) = some (inner, left ++ rest) := by
  induction e with
  | nil => exact ⟨[], [], rfl, .inl rfl, rfl⟩
  | cons x e ih =>
    obtain ⟨hx, he⟩ := contains_cons h
    obtain ⟨inner, left, rfl, hleft, hcut⟩ := ih he
    by_cases hlast : x = '}' ∧ inner ++ left = []
    · obtain ⟨rfl, hnil⟩ := hlast
      rw [hnil]
      exact ⟨[], ['}'], rfl, .inr rfl, rfl⟩
    · refine ⟨x :: inner, left, rfl, hleft, ?_⟩
      have hnone : after? ['}', '}'] (x :: (inner ++ left ++ ('}' :: '}' :: rest))) = none := by
        cases hil : inner ++ left with
        | nil =>
          have hx : x ≠ '}' := fun hx => hlast ⟨hx, hil⟩
          simp [after?, hx.symm]
        | cons y u =>
          rw [hil] at hx
          simpa [after?] using hx
      rw [List.cons_append, cut?, hnone]
      dsimp only
      rw [hcut, Option.map_some]

end Text

namespace Template

def Plain (t : Text) : Prop := ∀ c ∈ t, c ≠ '<' ∧ c ≠ '{'

/-- Parts of a template that open and close nothing. -/
inductive Closed : Text → Prop
  | comment {c : Text} (hc : Text.contains "-->".toList c = false) :
      Closed ("<!--".toList ++ c ++ "-->".toList)
  | interpolation {e : Text} (hend : Text.contains ['}', '}'] e = false)
      (htemplate : Text.contains "</template".toList e = false) : Closed (['{', '{'] ++ e ++ ['}', '}'])
  | leaf {tag : OpeningTag} {as : List Attribute} {t : Text} (htag : tag.Spelled as t)
      (hleaf : tag.selfClosing = true ∨ isVoid (Text.lower tag.name) = true) : Closed t
  | raw {tag : OpeningTag} {as : List Attribute} {t content name u : Text} (htag : tag.Spelled as t)
      (hopen : tag.selfClosing = false) (hraw : isRawText (Text.lower tag.name) = true)
      (hcontent : ClosingTag.Free (Text.lower tag.name) content) (hclose : ClosingTag.Spelled name u)
      (hname : Text.lower name = Text.lower tag.name) : Closed (t ++ content ++ u)

/-- Contents in which every element is closed, and inside the one around it. -/
inductive Nested : Text → Prop
  | plain {t : Text} (ht : Plain t) : Nested t
  | closed {t part u : Text} (ht : Plain t) (hpart : Closed part) (hu : Nested u) : Nested (t ++ (part ++ u))
  | element {t v content name w u : Text} {tag : OpeningTag} {as : List Attribute} (ht : Plain t)
      (htag : tag.Spelled as v) (hopen : tag.selfClosing = false) (hvoid : isVoid (Text.lower tag.name) = false)
      (hraw : isRawText (Text.lower tag.name) = false) (hcontent : Nested content)
      (hclose : ClosingTag.Spelled name w) (hname : Text.lower name = Text.lower tag.name) (hu : Nested u) :
      Nested (t ++ (v ++ content ++ w ++ u))

end Template

theorem OpeningTag.Spelled.exists_letter {tag : OpeningTag} {as : List Attribute} {t : Text}
    (h : tag.Spelled as t) : ∃ c u, t = '<' :: c :: u ∧ isAsciiLetter c = true := by
  cases h with
  | mk hname =>
    obtain ⟨c, name, rfl, hc⟩ := hname.letter
    exact ⟨c, _, rfl, hc⟩

theorem OpeningTag.letter_of_read? {t rest : Text} {tag : OpeningTag} (h : read? t = some (tag, rest)) :
    ∃ c u, t = '<' :: c :: u ∧ isAsciiLetter c = true := by
  unfold read? at h
  split at h
  · next c u =>
    split at h
    · next hc => exact ⟨c, u, rfl, hc⟩
    · cases h
  · cases h

namespace Token

theorem not_isVoid_of_isRawText {name : Text} (h : isRawText name = true) : isVoid name = false := by
  simp only [isRawText, rawTextElements, List.any_cons, List.any_nil, Bool.or_false, Bool.or_eq_true, beq_iff_eq] at h
  rcases h with h | h | h <;> rw [← h] <;> decide

theorem exists_bracket_of_read? {t rest : Text} {tag : OpeningTag} (h : OpeningTag.read? t = some (tag, rest)) :
    ∃ u, t = '<' :: u ∧ (∀ inside, u ≠ "!--".toList ++ inside) ∧ ∀ inside, u ≠ '/' :: inside := by
  obtain ⟨c, u, rfl, hc⟩ := OpeningTag.letter_of_read? h
  refine ⟨c :: u, rfl, fun inside he => ?_, fun inside he => ?_⟩
  · rw [(List.cons.inj he).1] at hc
    cases hc
  · rw [(List.cons.inj he).1] at hc
    cases hc

theorem exists_stroke_of_read? {t name rest : Text} (h : ClosingTag.read? t = some (name, rest)) :
    ∃ u, t = '<' :: '/' :: u := by
  unfold ClosingTag.read? at h
  split at h
  · exact ⟨_, rfl⟩
  · cases h

theorem readTag_comment (inside : Text) : readTag ("!--".toList ++ inside) =
    match Text.cut? "-->".toList inside with
    | some (_, rest) => .ok (.inert .comment, rest)
    | none => .error ⟨.unterminatedComment, "<!--".toList ++ inside⟩ := by
  have hmark : Text.after? "!--".toList ("!--".toList ++ inside) = some inside := Text.after?_eq_some_iff.2 rfl
  unfold readTag
  rw [hmark]
  rfl

theorem readTag_stroke (inside : Text) : readTag ('/' :: inside) =
    match ClosingTag.read? ('<' :: '/' :: inside) with
    | some (name, rest) => .ok (.closing (Text.lower name), rest)
    | none => .ok (.inert .other, inside) := rfl

theorem readTag_opening {t : Text} (hcomment : ∀ inside, t ≠ "!--".toList ++ inside)
    (hstroke : ∀ inside, t ≠ '/' :: inside) : readTag t =
    match OpeningTag.read? ('<' :: t) with
    | none => .ok (.inert .other, t)
    | some (tag, rest) =>
      if tag.selfClosing || isVoid (Text.lower tag.name) then .ok (.inert .leaf, rest)
      else if isRawText (Text.lower tag.name) then
        match EndTag.find? (Text.lower tag.name) rest with
        | some e => .ok (.inert .leaf, e.rest)
        | none => .error ⟨.missingEnd (Text.lower tag.name), '<' :: t⟩
      else .ok (.opening (Text.lower tag.name), rest) := by
  unfold readTag
  rw [Text.after?_eq_none hcomment]
  dsimp only
  split
  · exact absurd rfl (hstroke _)
  · rfl

theorem read_bracket (t : Text) : read '<' t = readTag t := by
  unfold read
  exact if_pos rfl

theorem read_braces (inside : Text) : read '{' ('{' :: inside) =
    match afterInterpolation? inside with
    | some rest => .ok (.inert .interpolation, rest)
    | none => .ok (.inert .other, inside) := by
  unfold read
  rw [if_neg (by decide), if_pos rfl]
  rfl

/-- What an opening tag is to the balance: its leaf, its raw text element, or an element to close. -/
theorem read_opening {tag : OpeningTag} {as : List Attribute} {c : Char} {t : Text} (h : tag.Spelled as (c :: t))
    (rest : Text) : read c (t ++ rest) =
      if tag.selfClosing || isVoid (Text.lower tag.name) then .ok (.inert .leaf, rest)
      else if isRawText (Text.lower tag.name) then
        match EndTag.find? (Text.lower tag.name) rest with
        | some e => .ok (.inert .leaf, e.rest)
        | none => .error ⟨.missingEnd (Text.lower tag.name), c :: t ++ rest⟩
      else .ok (.opening (Text.lower tag.name), rest) := by
  have hread : OpeningTag.read? (c :: (t ++ rest)) = some (tag, rest) := OpeningTag.read?_spelled h rest
  obtain ⟨u, hu, hcomment, hstroke⟩ := exists_bracket_of_read? hread
  obtain ⟨rfl, htail⟩ := List.cons.inj hu
  rw [htail] at hread
  rw [read_bracket, List.cons_append, htail, readTag_opening hcomment hstroke, hread]

theorem read_closing {name : Text} {c : Char} {t : Text} (h : ClosingTag.Spelled name (c :: t)) (rest : Text) :
    read c (t ++ rest) = .ok (.closing (Text.lower name), rest) := by
  have hread : ClosingTag.read? (c :: (t ++ rest)) = some (name, rest) := ClosingTag.read?_spelled h rest
  obtain ⟨u, hu⟩ := exists_stroke_of_read? hread
  obtain ⟨rfl, htail⟩ := List.cons.inj hu
  rw [htail] at hread
  rw [read_bracket, htail, readTag_stroke, hread]

theorem read_comment {c : Text} (h : Text.contains "-->".toList c = false) (rest : Text) :
    read '<' ('!' :: '-' :: '-' :: (c ++ '-' :: '-' :: '>' :: rest)) = .ok (.inert .comment, rest) := by
  rw [read_bracket]
  exact (readTag_comment (c ++ '-' :: '-' :: '>' :: rest)).trans (by rw [Text.cut?_comment h])

theorem read_interpolation {e : Text} (hend : Text.contains ['}', '}'] e = false)
    (htemplate : Text.contains "</template".toList e = false) (rest : Text) :
    ∃ left : Text, (left = [] ∨ left = ['}']) ∧
      read '{' ('{' :: (e ++ '}' :: '}' :: rest)) = .ok (.inert .interpolation, left ++ rest) := by
  obtain ⟨inner, left, rfl, hleft, hcut⟩ := Text.cut?_braces hend rest
  refine ⟨left, hleft, ?_⟩
  have hafter : afterInterpolation? (inner ++ left ++ '}' :: '}' :: rest) = some (left ++ rest) := by
    unfold afterInterpolation?
    rw [hcut]
    simp only [Text.contains_of_append htemplate]
    rfl
  rw [read_braces, hafter]

theorem read_plain {c : Char} (h : c ≠ '<' ∧ c ≠ '{') (t : Text) : read c t = .ok (.inert .other, t) := by
  unfold read
  rw [if_neg h.1, if_neg h.2]

end Token

namespace Template
variable {root : Text}

theorem findEnd_inert {c : Char} {t rest : Text} {kind : Inert} (h : Token.read c t = .ok (.inert kind, rest))
    (opened : List OpenElement) : findEnd root opened (c :: t) = findEnd root opened rest := by
  rw [findEnd.eq_def]
  dsimp only
  split <;> next h' =>
    rw [h] at h'
    cases h'
    try rfl

theorem findEnd_opening {c : Char} {t rest name : Text} (h : Token.read c t = .ok (.opening name, rest))
    (opened : List OpenElement) :
    findEnd root opened (c :: t) = findEnd root (⟨name, c :: t⟩ :: opened) rest := by
  rw [findEnd.eq_def]
  dsimp only
  split <;> next h' =>
    rw [h] at h'
    cases h'
    try rfl

theorem findEnd_closing {c : Char} {t rest name : Text} (h : Token.read c t = .ok (.closing name, rest))
    (start : Text) (opened : List OpenElement) :
    findEnd root (⟨name, start⟩ :: opened) (c :: t) = findEnd root opened rest := by
  rw [findEnd.eq_def]
  dsimp only
  split <;> next h' =>
    rw [h] at h'
    cases h'
    try exact if_pos rfl

theorem findEnd_root {c : Char} {t rest : Text} (h : Token.read c t = .ok (.closing "template".toList, rest)) :
    findEnd root [] (c :: t) = .ok ⟨c :: t, rest⟩ := by
  rw [findEnd.eq_def]
  dsimp only
  split <;> next h' =>
    rw [h] at h'
    cases h'
    try exact if_pos rfl

theorem findEnd_plain {t : Text} (ht : Plain t) (opened : List OpenElement) (rest : Text) :
    findEnd root opened (t ++ rest) = findEnd root opened rest := by
  induction t with
  | nil => rfl
  | cons c t ih =>
    obtain ⟨hc, ht⟩ := List.forall_mem_cons.1 ht
    rw [List.cons_append, findEnd_inert (Token.read_plain hc _), ih ht]

theorem findEnd_closed {part : Text} (h : Closed part) (opened : List OpenElement) (rest : Text) :
    findEnd root opened (part ++ rest) = findEnd root opened rest := by
  cases h with
  | @comment c hc =>
    have htext : "<!--".toList ++ c ++ "-->".toList ++ rest =
        '<' :: '!' :: '-' :: '-' :: (c ++ '-' :: '-' :: '>' :: rest) := by simp
    rw [htext, findEnd_inert (Token.read_comment hc rest)]
  | @interpolation e hend htemplate =>
    have htext : ['{', '{'] ++ e ++ ['}', '}'] ++ rest = '{' :: '{' :: (e ++ '}' :: '}' :: rest) := by simp
    obtain ⟨left, hleft, hread⟩ := Token.read_interpolation hend htemplate rest
    rw [htext, findEnd_inert hread]
    rcases hleft with rfl | rfl
    · rfl
    · exact findEnd_inert (Token.read_plain (by decide) rest) opened
  | @leaf tag as t htag hleaf =>
    obtain ⟨d, u, rfl, -⟩ := htag.exists_letter
    have hread := Token.read_opening htag rest
    rw [if_pos (by simpa using hleaf)] at hread
    exact findEnd_inert hread opened
  | @raw tag as t content name u htag hopen hraw hcontent hclose hname =>
    obtain ⟨d, v, rfl, -⟩ := htag.exists_letter
    have hvoid := Token.not_isVoid_of_isRawText hraw
    have hfind := EndTag.find?_spelled (hname ▸ hcontent) hclose rest
    have hread := Token.read_opening htag (content ++ (u ++ rest))
    rw [if_neg (by simp [hopen, hvoid]), if_pos hraw, ← hname, hfind] at hread
    simp only [List.append_assoc]
    exact findEnd_inert hread opened

/-- The balance passes over well-nested content. -/
theorem findEnd_nested {t : Text} (h : Nested t) (opened : List OpenElement) (rest : Text) :
    findEnd root opened (t ++ rest) = findEnd root opened rest := by
  induction h generalizing opened rest with
  | plain ht => exact findEnd_plain ht opened rest
  | closed ht hpart _ ih => rw [List.append_assoc, findEnd_plain ht, List.append_assoc, findEnd_closed hpart, ih]
  | @element t v content name w u tag as ht htag hopen hvoid hraw _ hclose hname _ ihcontent ihu =>
    obtain ⟨c, v, rfl, -⟩ := htag.exists_letter
    have hopening := Token.read_opening htag (content ++ (w ++ (u ++ rest)))
    rw [if_neg (by simp [hopen, hvoid]), if_neg (by simp [hraw])] at hopening
    simp only [List.append_assoc]
    rw [findEnd_plain ht, List.cons_append, findEnd_opening hopening, ihcontent]
    cases w with
    | nil => cases hclose
    | cons d w =>
      have hread := Token.read_closing hclose (u ++ rest)
      rw [hname] at hread
      exact (findEnd_closing hread _ opened).trans (ihu opened rest)

/-- A template with well-nested content ends at the closing tag behind it. -/
theorem findEnd_eq {t name u : Text} (h : Nested t) (hclose : ClosingTag.Spelled name u)
    (hname : Text.lower name = "template".toList) (rest : Text) :
    findEnd root [] (t ++ (u ++ rest)) = .ok ⟨u ++ rest, rest⟩ := by
  rw [findEnd_nested h]
  cases u with
  | nil => cases hclose
  | cons d u =>
    have hread := Token.read_closing hclose rest
    rw [hname] at hread
    exact findEnd_root hread

end Template

end ComponentFormat
