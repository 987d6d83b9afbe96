import ComponentFormat.Proofs.LowerCase
import ComponentFormat.Proofs.Spelling

/-! # What a tag is

The readers take exactly the tags that can be written: `OpeningTag.read?_eq_some_iff` and `ClosingTag.readNamed?_iff`
say which texts start with an opening tag and with a closing tag of a name, and `EndTag.find?_eq_some_iff` that the end
of raw text is the first such closing tag.
-/
namespace ComponentFormat

namespace Text

theorem run_takeWhile (p : Char → Bool) (t : Text) : ∀ c ∈ t.takeWhile p, p c = true :=
  List.all_eq_true.1 List.all_takeWhile

theorem head?_dropWhile {p : Char → Bool} {t : Text} : ∀ c ∈ (t.dropWhile p).head?, p c = false := by
  intro c hc
  have := List.head?_dropWhile_not p t
  rw [hc] at this
  simpa using this

theorem exists_blank_append (t : Text) : ∃ gap : Text, gap.Blank ∧ t = gap ++ t.dropWhile isBlank :=
  ⟨t.takeWhile isBlank, blank_takeWhile t, List.takeWhile_append_dropWhile.symm⟩

end Text

namespace Attribute

theorem readQuoted?_eq_some {quote : Char} {t value rest : Text} (h : readQuoted? quote t = some (value, rest)) :
    quote ∉ value ∧ t = value ++ quote :: rest := by
  induction t generalizing value with
  | nil => cases h
  | cons c t ih =>
    rw [readQuoted?] at h
    split at h
    · next hc =>
      cases h
      exact ⟨List.not_mem_nil, by rw [hc]; rfl⟩
    · next hc =>
      obtain ⟨⟨value', rest'⟩, hread, he⟩ := Option.map_eq_some_iff.1 h
      cases he
      obtain ⟨hmem, rfl⟩ := ih hread
      refine ⟨?_, rfl⟩
      rw [List.mem_cons]
      rintro (rfl | hm)
      · exact hc rfl
      · exact hmem hm

theorem readBare?_eq_some {t value rest : Text} (h : readBare? t = some (value, rest)) :
    value ≠ [] ∧ (∀ c ∈ value, isBareChar c = true) ∧ t = value ++ rest ∧ rest.head? ≠ some '/' := by
  unfold readBare? at h
  split at h
  · cases h
  · next hne =>
    cases h
    refine ⟨hne, Text.run_takeWhile _ t, List.takeWhile_append_dropWhile.symm, fun hslash => ?_⟩
    exact absurd (Text.head?_dropWhile (p := isBareChar) (t := t) '/' hslash) (by decide)

theorem spelled_of_readValue? {name t value rest : Text} (hname : IsName name)
    (h : readValue? t = some (value, rest)) : ∃ inner, t = inner ++ rest ∧ ∀ gap : Text, gap.Blank → gap ≠ [] →
      Spelled rest ⟨name, some value⟩ (gap ++ (name ++ inner)) := by
  obtain ⟨left, hleft, ht⟩ := Text.exists_blank_append t
  unfold readValue? at h
  split at h
  · next u hu =>
    obtain ⟨right, hright, hv⟩ := Text.exists_blank_append u
    rw [hu, hv] at ht
    have hquoted {quote : Char} (hquote : quote = '"' ∨ quote = '\'') {v : Text}
        (hdrop : u.dropWhile isBlank = quote :: v) (hread : readQuoted? quote v = some (value, rest)) :
        ∃ inner, t = inner ++ rest ∧ ∀ gap : Text, gap.Blank → gap ≠ [] →
          Spelled rest ⟨name, some value⟩ (gap ++ (name ++ inner)) := by
      obtain ⟨hmem, rfl⟩ := readQuoted?_eq_some hread
      refine ⟨left ++ '=' :: right ++ quote :: value ++ [quote], by rw [ht, hdrop]; simp, fun gap hgap hsome => ?_⟩
      have hspelled : Spelled rest ⟨name, some value⟩ _ := .quoted hgap hsome hname hleft hright hquote hmem
      simpa using hspelled
    split at h
    · next hdrop => exact hquoted (.inl rfl) hdrop h
    · next hdrop => exact hquoted (.inr rfl) hdrop h
    · obtain ⟨hne, hbare, hdrop, hslash⟩ := readBare?_eq_some h
      refine ⟨left ++ '=' :: right ++ value, by rw [ht, hdrop]; simp, fun gap hgap hsome => ?_⟩
      have hspelled : Spelled rest ⟨name, some value⟩ _ := .bare hgap hsome hname hleft hright hne hbare hslash
      simpa using hspelled
  · cases h

/-- What is read as an attribute is one, behind any blanks. -/
theorem spelled_of_read? {t rest : Text} {a : Attribute} (h : read? t = some (a, rest)) :
    ∃ inner, t = inner ++ rest ∧ ∀ gap : Text, gap.Blank → gap ≠ [] → a.Spelled rest (gap ++ inner) := by
  have ht : t = t.takeWhile isNameChar ++ t.dropWhile isNameChar := List.takeWhile_append_dropWhile.symm
  unfold read? at h
  split at h
  · cases h
  · next hne =>
    have hname : IsName (t.takeWhile isNameChar) := ⟨hne, Text.run_takeWhile _ t⟩
    dsimp only at h
    split at h
    · next hread =>
      cases h
      obtain ⟨inner, hinner, hspelled⟩ := spelled_of_readValue? hname hread
      rw [hinner, ← List.append_assoc] at ht
      exact ⟨_, ht, hspelled⟩
    · cases h
      exact ⟨_, ht, fun gap hgap hsome => .alone hgap hsome hname⟩

theorem Spelled.congr {a : Attribute} {next next' t : Text} (h : a.Spelled next t) (hnext : next.head? = next'.head?) :
    a.Spelled next' t := by
  cases h with
  | alone hgap hsome hname => exact .alone hgap hsome hname
  | quoted hgap hsome hname hleft hright hquote hvalue =>
    exact .quoted hgap hsome hname hleft hright hquote hvalue
  | bare hgap hsome hname hleft hright hne hvalue hslash =>
    exact .bare hgap hsome hname hleft hright hne hvalue (hnext ▸ hslash)

end Attribute

namespace Attributes

theorem Spelled.congr {ending ending' t : Text} {as : List Attribute} (h : Spelled ending as t)
    (hending : ending.head? = ending'.head?) : Spelled ending' as t := by
  induction h with
  | nil => exact .nil
  | @cons a as t u ha _ ih =>
    refine .cons (ha.congr ?_) ih
    rw [List.head?_append, List.head?_append, hending]

/-- What is passed over in front of the end of a tag are attributes. -/
theorem exists_spelled (t : Text) :
    ∃ as u, t = u ++ afterAttributes t ∧ Spelled (afterAttributes t) as u := by
  fun_induction afterAttributes t with
  | case1 => exact ⟨[], [], rfl, .nil⟩
  | case2 c t hc a ending hread ih =>
    obtain ⟨as, u, hu, has⟩ := ih
    obtain ⟨gap, hgap, ht⟩ := Text.exists_blank_append t
    obtain ⟨inner, hinner, hspelled⟩ := Attribute.spelled_of_read? hread
    have ha : a.Spelled ending (c :: gap ++ inner) :=
      hspelled (c :: gap) (Text.blank_cons.2 ⟨hc, hgap⟩) (List.cons_ne_nil c gap)
    refine ⟨a :: as, c :: gap ++ inner ++ u, ?_, .cons (hu ▸ ha) has⟩
    rw [List.append_assoc, ← hu, List.append_assoc, ← hinner, List.cons_append, ← ht]
  | case3 => exact ⟨[], [], rfl, .nil⟩
  | case4 => exact ⟨[], [], rfl, .nil⟩

end Attributes

namespace OpeningTag

theorem readEnd?_eq_some {t rest : Text} {selfClosing : Bool} (h : readEnd? t = some (selfClosing, rest)) :
    ∃ gap : Text, gap.Blank ∧ t = gap ++ bracket selfClosing ++ rest := by
  obtain ⟨gap, hgap, ht⟩ := Text.exists_blank_append t
  refine ⟨gap, hgap, ?_⟩
  rw [List.append_assoc]
  unfold readEnd? at h
  split at h
  · next hdrop =>
    cases h
    rw [ht, hdrop]
    rfl
  · next hdrop =>
    cases h
    rw [ht, hdrop]
    rfl
  · cases h

/-- An opening tag is read exactly where one stands. -/
theorem read?_eq_some_iff {tag : OpeningTag} {t rest : Text} :
    read? t = some (tag, rest) ↔ ∃ as u, tag.Written as u ∧ t = u ++ rest := by
  constructor
  · intro h
    unfold read? at h
    split at h
    · next c t =>
      split at h
      · next hc =>
        obtain ⟨⟨selfClosing, rest'⟩, hend, he⟩ := Option.map_eq_some_iff.1 h
        cases he
        obtain ⟨as, u, hu, has⟩ := Attributes.exists_spelled (t.dropWhile isTagNameChar)
        obtain ⟨gap, hgap, hending⟩ := readEnd?_eq_some hend
        have hhead : (afterAttributes (t.dropWhile isTagNameChar)).head? = (gap ++ bracket selfClosing).head? := by
          rw [hending, List.append_assoc, List.head?_append, List.head?_append]
          cases selfClosing <;> simp [bracket]
        have hbetween : Text.upTo (t.dropWhile isTagNameChar) (afterAttributes (t.dropWhile isTagNameChar)) = u := by
          generalize afterAttributes (t.dropWhile isTagNameChar) = ending at hu
          rw [hu, Text.upTo_append_self]
        have hname : IsName (c :: t.takeWhile isTagNameChar) := ⟨c, _, rfl, hc, Text.run_takeWhile _ t⟩
        refine ⟨as, _, .mk hname hgap (hbetween ▸ has.congr hhead), ?_⟩
        rw [hending] at hu
        rw [hbetween]
        calc '<' :: c :: t = '<' :: c :: (t.takeWhile isTagNameChar ++ t.dropWhile isTagNameChar) := by
              rw [List.takeWhile_append_dropWhile]
          _ = _ := by rw [hu]; simp
      · cases h
    · cases h
  · rintro ⟨as, u, h, rfl⟩
    exact read?_written h rest

end OpeningTag

namespace Text

theorem alike_of_lowerFrom {name w passed : Text} (h : lowerFrom passed w = name) (hname : name.PlainLower) :
    Alike name w := by
  subst h
  apply alike_lowerFrom
  intro hdotted
  have hmem : '\u0307' ∈ lowerFrom passed w := by
    apply lowerSequence_subset_lowerFrom hdotted (by decide)
    exact .tail _ (.head _)
  exact absurd (toNat_lt_of_isPlainNameChar (hname.plain _ hmem)) (by decide)

end Text

namespace ClosingTag

theorem exists_of_read? {t name rest : Text} (h : read? t = some (name, rest)) :
    ∃ gap : Text, gap.Blank ∧ t = '<' :: '/' :: (name ++ gap ++ ['>']) ++ rest := by
  unfold read? at h
  split at h
  · next c t =>
    split at h
    · obtain ⟨gap, hgap, ht⟩ := Text.exists_blank_append (t.dropWhile isTagNameChar)
      split at h
      · next r hr =>
        cases h
        refine ⟨gap, hgap, ?_⟩
        rw [hr] at ht
        calc '<' :: '/' :: c :: t = '<' :: '/' :: c :: (t.takeWhile isTagNameChar ++ t.dropWhile isTagNameChar) := by
              rw [List.takeWhile_append_dropWhile]
          _ = _ := by rw [ht]; simp
      · cases h
    · cases h
  · cases h

theorem closes_of_read? {t w name rest : Text} (h : read? t = some (w, rest)) (hlower : Text.lower w = name)
    (hname : name.PlainLower) : ∃ tag, Closes name tag ∧ t = tag ++ rest := by
  obtain ⟨gap, hgap, rfl⟩ := exists_of_read? h
  exact ⟨_, ⟨w, gap, Text.alike_of_lowerFrom hlower hname, hgap, rfl⟩, rfl⟩

end ClosingTag

namespace EndTag

/-- The end tag that is found is the first one. -/
theorem find?_eq_some {name t : Text} {e : EndTag} (h : find? name t = some e) :
    ClosingTag.readNamed? name e.start = some e.rest ∧ ∃ a, t = a ++ e.start ∧
      ∀ u v, t = u ++ v → u.length < a.length → ClosingTag.readNamed? name v = none := by
  induction t with
  | nil => cases h
  | cons c t ih =>
    rw [find?] at h
    split at h
    · next hread =>
      cases h
      exact ⟨hread, [], rfl, fun u v _ hlt => absurd hlt (Nat.not_lt_zero _)⟩
    · next hread =>
      obtain ⟨hend, a, rfl, hnone⟩ := ih h
      refine ⟨hend, c :: a, rfl, fun u v huv hlt => ?_⟩
      cases u with
      | nil => rwa [← List.nil_append v, ← huv]
      | cons d u => exact hnone u v (List.cons.inj huv).2 (Nat.lt_of_succ_lt_succ hlt)

end EndTag

end ComponentFormat
