import Mathlib.Data.List.Forall2
import ComponentFormat.Component.Tag

/-! # Plain names

A plain name has ASCII letters, digits and hyphens, and starts with a letter. Its lower case is taken letter by letter,
and what equals it up to case, in whatever alphabet, holds no blank, bracket or quote.
-/
namespace ComponentFormat

def isPlainNameChar (c : Char) : Bool :=
  isAsciiLetter c || isAsciiDigit c || c == '-'

/-- ASCII letters, digits and hyphens, a letter first. -/
structure Text.IsPlainName (name : Text) : Prop where
  letter : ∃ c t, name = c :: t ∧ isAsciiLetter c = true
  plain : ∀ c ∈ name, isPlainNameChar c = true

theorem isAsciiLetter_iff {c : Char} :
    isAsciiLetter c = true ↔ (97 ≤ c.toNat ∧ c.toNat ≤ 122) ∨ (65 ≤ c.toNat ∧ c.toNat ≤ 90) := by
  simp only [isAsciiLetter, Bool.or_eq_true, Bool.and_eq_true, decide_eq_true_eq]
  exact Iff.rfl

theorem isAsciiDigit_iff {c : Char} : isAsciiDigit c = true ↔ 48 ≤ c.toNat ∧ c.toNat ≤ 57 := by
  simp only [isAsciiDigit, Bool.and_eq_true, decide_eq_true_eq]
  exact Iff.rfl

theorem toNat_lt_of_isPlainNameChar {c : Char} (h : isPlainNameChar c = true) : c.toNat < 128 := by
  simp only [isPlainNameChar, Bool.or_eq_true, isAsciiLetter_iff, isAsciiDigit_iff, beq_iff_eq] at h
  rcases h with (h | h) | rfl
  · omega
  · omega
  · decide

theorem forall_ascii (p : Char → Prop) (h : ∀ n < 128, p (Char.ofNat n)) {c : Char} (hc : c.toNat < 128) : p c := by
  have := h c.toNat hc
  rwa [Char.ofNat_toNat] at this

theorem forall_isPlainNameChar (p : Char → Prop)
    (h : ∀ n < 128, isPlainNameChar (Char.ofNat n) = true → p (Char.ofNat n)) {c : Char}
    (hc : isPlainNameChar c = true) : p c :=
  forall_ascii (fun c => isPlainNameChar c = true → p c) h (toNat_lt_of_isPlainNameChar hc) hc

def blanks : List Char :=
  [0x09, 0x0A, 0x0B, 0x0C, 0x0D, 0x1C, 0x1D, 0x1E, 0x1F, 0x20, 0x85, 0xA0, 0x1680, 0x2000, 0x2001, 0x2002, 0x2003,
    0x2004, 0x2005, 0x2006, 0x2007, 0x2008, 0x2009, 0x200A, 0x2028, 0x2029, 0x202F, 0x205F, 0x3000].map Char.ofNat

theorem mem_blanks {c : Char} (h : isBlank c = true) : c ∈ blanks := by
  rw [← Char.ofNat_toNat c]
  refine List.mem_map_of_mem ?_
  simp only [isBlank, Bool.or_eq_true, Bool.and_eq_true, decide_eq_true_eq, beq_iff_eq] at h
  simp only [List.mem_cons, List.not_mem_nil, or_false]
  omega

def marks : List Char := ['<', '>', '"', '\'']

theorem isTagNameChar_of_plain {c : Char} (h : isPlainNameChar c = true) : isTagNameChar c = true :=
  forall_isPlainNameChar (fun c => isTagNameChar c = true) (by decide +kernel) h

theorem not_blank_of_plain {c : Char} (h : isPlainNameChar c = true) : isBlank c = false :=
  forall_isPlainNameChar (fun c => isBlank c = false) (by decide +kernel) h

theorem not_mem_marks_of_plain {c : Char} (h : isPlainNameChar c = true) : c ∉ marks :=
  forall_isPlainNameChar (fun c => c ∉ marks) (by decide +kernel) h

namespace Text

theorem lowerFrom_of_ascii {t : Text} (h : ∀ c ∈ t, c.toNat < 128) (passed : Text) :
    lowerFrom passed t = t.map lowerLetter := by
  induction t generalizing passed with
  | nil => rfl
  | cons c t ih =>
    obtain ⟨hc, ht⟩ := List.forall_mem_cons.1 h
    have hsigma : c.toNat ≠ 0x3A3 := by omega
    have hdotted : c.toNat ≠ 0x130 := by omega
    simp [lowerFrom, lowerSequence, hsigma, hdotted, ih ht]

theorem lowerFrom_of_plain {name : Text} (h : ∀ c ∈ name, isPlainNameChar c = true) (passed : Text) :
    lowerFrom passed name = name.map lowerLetter :=
  lowerFrom_of_ascii (fun c hc => toNat_lt_of_isPlainNameChar (h c hc)) passed

theorem lower_of_plain {name : Text} (h : ∀ c ∈ name, isPlainNameChar c = true) :
    lower name = name.map lowerLetter :=
  lowerFrom_of_plain h []

theorem isPlainNameChar_lowerLetter {c : Char} (h : isPlainNameChar c = true) :
    isPlainNameChar (lowerLetter c) = true :=
  forall_isPlainNameChar (fun c => isPlainNameChar (lowerLetter c) = true) (by decide +kernel) h

theorem lowerLetter_lowerLetter {c : Char} (h : isPlainNameChar c = true) :
    lowerLetter (lowerLetter c) = lowerLetter c :=
  forall_isPlainNameChar (fun c => lowerLetter (lowerLetter c) = lowerLetter c) (by decide +kernel) h

/-- Blanks and marks are their own lower case, and no letter shares its upper case with one. -/
theorem lowerLetter_of_blank {c : Char} (hc : isBlank c = true ∨ c ∈ marks) :
    lowerLetter c = c ∧ ∀ q ∈ sharedUpper, c.toNat ∉ q.2 := by
  have hall : ((blanks ++ marks).all fun d =>
      lowerLetter d == d && sharedUpper.all fun q => !q.2.contains d.toNat) = true := by decide +kernel
  have hone := List.all_eq_true.1 hall c (List.mem_append.2 (hc.imp_left mem_blanks))
  simpa using hone

theorem sameLetter_eq_false {n c : Char} (hn : isPlainNameChar n = true)
    (hc : isBlank c = true ∨ c ∈ marks) : sameLetter n c = false := by
  obtain ⟨hlower, hshared⟩ := lowerLetter_of_blank hc
  have hplain := isPlainNameChar_lowerLetter hn
  have hne : lowerLetter n ≠ c := by
    rintro rfl
    rcases hc with hblank | hmark
    · rw [not_blank_of_plain hplain] at hblank
      cases hblank
    · exact not_mem_marks_of_plain hplain hmark
  simp only [sameLetter, hlower, beq_eq_false_iff_ne.2 hne, Bool.false_or]
  split
  · next hq => simpa using hshared _ (List.mem_of_find?_eq_some hq)
  · rfl

theorem plain_lower {name : Text} (h : ∀ c ∈ name, isPlainNameChar c = true) :
    ∀ c ∈ lower name, isPlainNameChar c = true := by
  rw [lower_of_plain h]
  intro c hc
  obtain ⟨d, hd, rfl⟩ := List.mem_map.1 hc
  exact isPlainNameChar_lowerLetter (h d hd)

/-- Plain characters that are their own lower case, as in the names that the readers know. -/
def PlainLower (name : Text) : Prop := ∀ c ∈ name, isPlainNameChar c = true ∧ lowerLetter c = c

instance (name : Text) : Decidable name.PlainLower :=
  decidable_of_iff ((name.all fun c => isPlainNameChar c && lowerLetter c == c) = true) (by simp [PlainLower])

theorem PlainLower.plain {name : Text} (h : name.PlainLower) : ∀ c ∈ name, isPlainNameChar c = true :=
  fun c hc => (h c hc).1

theorem afterCaseless?_lower {name : Text} (h : ∀ c ∈ name, isPlainNameChar c = true) (rest : Text) :
    afterCaseless? (lower name) (name ++ rest) = some rest := by
  rw [lower_of_plain h]
  induction name with
  | nil => rfl
  | cons c name ih =>
    obtain ⟨hc, hname⟩ := List.forall_mem_cons.1 h
    have : sameLetter (lowerLetter c) c = true := by simp [sameLetter, lowerLetter_lowerLetter hc]
    simp [afterCaseless?, this, ih hname]

/-- Equal up to case, the characters compared one by one. -/
def Alike (name w : Text) : Prop := List.Forall₂ (fun n c => sameLetter n c = true) name w

theorem afterCaseless?_iff {name t rest : Text} :
    afterCaseless? name t = some rest ↔ ∃ w, Alike name w ∧ t = w ++ rest := by
  constructor
  · intro h
    induction name generalizing t with
    | nil =>
      cases h
      exact ⟨[], .nil, rfl⟩
    | cons n name ih =>
      cases t with
      | nil => cases h
      | cons c t =>
        rw [afterCaseless?] at h
        split at h
        · next hs =>
          obtain ⟨w, hw, rfl⟩ := ih h
          exact ⟨c :: w, .cons hs hw, rfl⟩
        · cases h
  · rintro ⟨w, hw, rfl⟩
    induction hw with
    | nil => rfl
    | @cons n c name w hs _ ih => rw [List.cons_append, afterCaseless?, if_pos hs, ih]

structure Matches (name w : Text) : Prop where
  same : afterCaseless? name w = some []
  clean : ∀ c ∈ w, isBlank c = false ∧ c ∉ marks

theorem Alike.matches_of_plain {name w : Text} (hw : Alike name w) (h : ∀ c ∈ name, isPlainNameChar c = true) :
    Matches name w := by
  refine ⟨afterCaseless?_iff.2 ⟨w, hw, (List.append_nil w).symm⟩, ?_⟩
  induction hw with
  | nil => exact List.forall_mem_nil _
  | @cons n c name w hs _ ih =>
    obtain ⟨hn, hname⟩ := List.forall_mem_cons.1 h
    have hclean (hc : isBlank c = true ∨ c ∈ marks) : False := by
      rw [sameLetter_eq_false hn hc] at hs
      cases hs
    refine List.forall_mem_cons.2 ⟨⟨?_, ?_⟩, ih hname⟩
    · exact Bool.eq_false_iff.2 fun hb => hclean (.inl hb)
    · exact fun he => hclean (.inr he)

theorem afterCaseless?_eq_some_iff {name t rest : Text} (h : ∀ c ∈ name, isPlainNameChar c = true) :
    afterCaseless? name t = some rest ↔ ∃ w, Matches name w ∧ t = w ++ rest := by
  rw [afterCaseless?_iff]
  constructor
  · rintro ⟨w, hw, rfl⟩
    exact ⟨w, hw.matches_of_plain h, rfl⟩
  · rintro ⟨w, hw, rfl⟩
    obtain ⟨w', hw', he⟩ := afterCaseless?_iff.1 hw.same
    rw [List.append_nil] at he
    exact ⟨w', hw', by rw [he]⟩

end Text

end ComponentFormat
