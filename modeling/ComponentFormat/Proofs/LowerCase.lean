import ComponentFormat.Proofs.Names

/-! # Lower case and equality up to case

A name in lower case is compared with the name of a closing tag letter by letter. That is the same as comparing the
lower cases of both names exactly if no letter of the first shares its upper case with another letter
(`Text.alike_eq_lower_iff`). Of the names with one lower case, those that hold a dotted capital I, which has two
characters in lower case, are not recognised (`Text.alike_lower_iff`).
-/
namespace ComponentFormat.Text

namespace CaseRun
variable {r : CaseRun} {code : Nat}

def image (r : CaseRun) (code : Nat) : Nat := (Int.ofNat code + r.shift).toNat

def moved (r : CaseRun) : CaseRun := ⟨r.image r.first, r.image r.last, r.step, 0⟩

/-- What the run moves code points to are characters, and in ASCII none but small letters. -/
def isSound (r : CaseRun) : Bool :=
  Nat.ble r.first r.last && decide (0 ≤ Int.ofNat r.first + r.shift) && Nat.blt (r.image r.last) 0x110000 &&
    (Nat.blt (r.image r.last) 0xD800 || Nat.ble 0xE000 (r.image r.first)) &&
    (Nat.ble 0x80 (r.image r.first) || Nat.ble 97 (r.image r.first) && Nat.ble (r.image r.last) 122)

theorem image_bounds (hr : r.isSound = true) (h : r.covers code = true) :
    r.image code = r.image r.first + (code - r.first) ∧ r.image code ≤ r.image r.last := by
  simp only [isSound, covers, image, Bool.and_eq_true, decide_eq_true_eq, Nat.ble_eq] at hr h ⊢
  simp only [Int.ofNat_eq_natCast] at hr ⊢
  omega

theorem covers_moved (hr : r.isSound = true) (h : r.covers code = true) : r.moved.covers (r.image code) = true := by
  obtain ⟨himage, hle⟩ := image_bounds hr h
  have hdistance : r.image code - r.image r.first = code - r.first := by omega
  simp only [covers, Bool.and_eq_true, decide_eq_true_eq, beq_iff_eq] at h ⊢
  dsimp only [moved]
  rw [hdistance]
  exact ⟨⟨by omega, hle⟩, h.2⟩

/-- The number with the first `n` of the even bits. -/
def evenBits : Nat → Nat
  | 0 => 0
  | n + 1 => 4 * evenBits n + 1

theorem testBit_evenBits {n i : Nat} (h : i < n) : (evenBits n).testBit (2 * i) = true := by
  induction n generalizing i with
  | zero => omega
  | succ n ih =>
    cases i with
    | zero =>
      have hodd : evenBits (n + 1) % 2 = 1 := by
        rw [evenBits]
        omega
      rw [Nat.mul_zero, Nat.testBit_zero, hodd]
      rfl
    | succ i =>
      have hhalves : evenBits (n + 1) / 2 / 2 = evenBits n := by
        rw [evenBits]
        omega
      rw [Nat.mul_succ, Nat.testBit_succ, Nat.testBit_succ, hhalves]
      exact ih (Nat.lt_of_succ_lt_succ h)

def bits (r : CaseRun) : Nat :=
  (if r.step = 2 then evenBits ((r.last - r.first) / 2 + 1) else 1 <<< (r.last - r.first + 1) - 1) <<< r.first

theorem testBit_bits (h : r.covers code = true) : r.bits.testBit code = true := by
  simp only [covers, Bool.and_eq_true, decide_eq_true_eq, beq_iff_eq] at h
  obtain ⟨⟨hfirst, hlast⟩, hstep⟩ := h
  rw [bits, Nat.testBit_shiftLeft, decide_eq_true hfirst, Bool.true_and]
  split
  · next htwo =>
    rw [htwo] at hstep
    have heven : code - r.first = 2 * ((code - r.first) / 2) := by omega
    rw [heven]
    exact testBit_evenBits (by omega)
  · rw [Nat.one_shiftLeft, Nat.testBit_two_pow_sub_one]
    exact decide_eq_true (by omega)

def bitsOf (runs : List CaseRun) : Nat := runs.foldr (fun r n => r.bits ||| n) 0

theorem testBit_bitsOf {runs : List CaseRun} (hr : r ∈ runs) (h : r.covers code = true) :
    (bitsOf runs).testBit code = true := by
  induction runs with
  | nil => cases hr
  | cons s runs ih =>
    rw [bitsOf, List.foldr_cons, Nat.testBit_or]
    rcases List.mem_cons.1 hr with rfl | hr
    · rw [testBit_bits h, Bool.true_or]
    · have hrest := ih hr
      rw [bitsOf] at hrest
      rw [hrest, Bool.or_true]

end CaseRun

/-- Where the blanks are, the small I without a dot and the long small S. -/
def steadyRuns : List CaseRun :=
  [⟨0x09, 0x20, 1, 0⟩, ⟨0x80, 0xA0, 1, 0⟩, ⟨0x131, 0x131, 1, 0⟩, ⟨0x17F, 0x17F, 1, 0⟩, ⟨0x1680, 0x1680, 1, 0⟩,
    ⟨0x2000, 0x205F, 1, 0⟩, ⟨0x3000, 0x3000, 1, 0⟩]

theorem exists_of_isBlank {c : Char} (h : isBlank c = true) : ∃ s ∈ steadyRuns, s.covers c.toNat = true := by
  have hall : (blanks.all fun d => steadyRuns.any (·.covers d.toNat)) = true := by decide +kernel
  exact List.any_eq_true.1 (List.all_eq_true.1 hall c (mem_blanks h))

theorem isSound_of_mem : ∀ r ∈ lowerRuns, r.isSound = true :=
  List.all_eq_true.1 (by decide +kernel)

/-- What is the lower case of another letter has no lower case of its own, and is neither a blank nor one of the two
letters. -/
theorem not_covers_image {r s : CaseRun} (hr : r ∈ lowerRuns) (hs : s ∈ lowerRuns ++ steadyRuns) {code : Nat}
    (h : r.covers code = true) : s.covers (r.image code) = false := by
  -- all pairs of runs at once: the two numbers have no bit in common
  have hapart : CaseRun.bitsOf (lowerRuns.map CaseRun.moved) &&& CaseRun.bitsOf (lowerRuns ++ steadyRuns) = 0 := by
    decide +kernel
  rw [Bool.eq_false_iff]
  intro hcovers
  have hmoved := CaseRun.testBit_bitsOf (List.mem_map_of_mem hr) (CaseRun.covers_moved (isSound_of_mem r hr) h)
  have hbit := congrArg (Nat.testBit · (r.image code)) hapart
  simp only [Nat.testBit_and, hmoved, CaseRun.testBit_bitsOf hs hcovers, Nat.zero_testBit, Bool.and_self] at hbit
  cases hbit

theorem toNat_ofNat_of_valid {n : Nat} (h : n.isValidChar) : (Char.ofNat n).toNat = n := by
  rw [Char.ofNat, dif_pos h]
  exact UInt32.toNat_ofNatLT

theorem lowerLetter_ascii {c : Char} (hc : c.toNat < 128) : (lowerLetter c).toNat < 128 ∧
    lowerLetter (lowerLetter c) = lowerLetter c ∧ (97 ≤ c.toNat → c.toNat ≤ 122 → lowerLetter c = c) ∧
      (isBlank (lowerLetter c) = true → isBlank c = true) :=
  forall_ascii (fun c => (lowerLetter c).toNat < 128 ∧ lowerLetter (lowerLetter c) = lowerLetter c ∧
    (97 ≤ c.toNat → c.toNat ≤ 122 → lowerLetter c = c) ∧ (isBlank (lowerLetter c) = true → isBlank c = true))
    (by decide +kernel) hc

/-- Outside ASCII a character is its own lower case or moved by a run. -/
theorem lowerLetter_cases {c : Char} (hc : 128 ≤ c.toNat) : lowerLetter c = c ∨
    ∃ r ∈ lowerRuns, r.covers c.toNat = true ∧ (lowerLetter c).toNat = r.image c.toNat := by
  rw [lowerLetter, if_neg (by omega), shiftBy]
  split
  · next r hfind =>
    have hcovers := List.find?_some hfind
    have hmem := List.mem_of_find?_eq_some hfind
    have hsound := isSound_of_mem r hmem
    refine .inr ⟨r, hmem, hcovers, ?_⟩
    obtain ⟨himage, hle⟩ := CaseRun.image_bounds hsound hcovers
    simp only [CaseRun.isSound, Bool.and_eq_true, Bool.or_eq_true, Nat.blt_eq, Nat.ble_eq] at hsound
    have hvalid : (r.image c.toNat).isValidChar := by
      unfold Nat.isValidChar
      omega
    exact toNat_ofNat_of_valid hvalid
  · exact .inl (Char.ofNat_toNat c)

/-- What is covered by a run is the lower case of nothing but itself. -/
theorem eq_of_covers_lowerLetter {s : CaseRun} (hs : s ∈ lowerRuns ++ steadyRuns) {c : Char} (hc : 128 ≤ c.toNat)
    (h : s.covers (lowerLetter c).toNat = true) : lowerLetter c = c := by
  rcases lowerLetter_cases hc with hsame | ⟨r, hr, hcovers, himage⟩
  · exact hsame
  · rw [himage, not_covers_image hr hs hcovers] at h
    cases h

theorem lowerLetter_settled (c : Char) : lowerLetter (lowerLetter c) = lowerLetter c := by
  by_cases hc : c.toNat < 128
  · exact (lowerLetter_ascii hc).2.1
  have hc : 128 ≤ c.toNat := Nat.le_of_not_lt hc
  by_cases hlow : (lowerLetter c).toNat < 128
  · rcases lowerLetter_cases hc with hsame | ⟨r, hr, hcovers, himage⟩
    · rw [hsame, hsame]
    · obtain ⟨hfirst, hlast⟩ := CaseRun.image_bounds (isSound_of_mem r hr) hcovers
      have hsound := isSound_of_mem r hr
      simp only [CaseRun.isSound, Bool.and_eq_true, Bool.or_eq_true, Nat.ble_eq] at hsound
      exact (lowerLetter_ascii hlow).2.2.1 (by omega) (by omega)
  rcases lowerLetter_cases (Nat.le_of_not_lt hlow) with hsame | ⟨s, hs, hcovers, -⟩
  · exact hsame
  · have hsame := eq_of_covers_lowerLetter (List.mem_append_left _ hs) hc hcovers
    rw [hsame, hsame]

/-- Nothing but a blank has a blank for its lower case. -/
theorem isBlank_of_lowerLetter {c : Char} (h : isBlank (lowerLetter c) = true) : isBlank c = true := by
  by_cases hc : c.toNat < 128
  · exact (lowerLetter_ascii hc).2.2.2 h
  · obtain ⟨s, hs, hcovers⟩ := exists_of_isBlank h
    have hsame := eq_of_covers_lowerLetter (List.mem_append_right _ hs) (Nat.le_of_not_lt hc) hcovers
    rwa [hsame] at h

/-! ### Names in lower case -/

/-- A letter in lower case whose upper case another one has too. -/
def sharesUpper (c : Char) : Bool := (sharedUpper.find? (·.1 == c.toNat)).isSome

/-- The dotted capital I and the capital sigma have letters in lower case that share their upper case. These letters,
and the small I without a dot and the long small S, are their own lower case. -/
theorem lower_dotted_sigma : (lowerLetter '\u0130' = 'i' ∧ sharesUpper 'i' = true) ∧
    (lowerLetter 'Σ' = 'σ' ∧ sharesUpper 'σ' = true ∧ sameLetter 'σ' 'Σ' = true ∧ sameLetter 'ς' 'Σ' = true) ∧
      (lowerLetter 'i' = 'i' ∧ lowerLetter '\u0307' = '\u0307' ∧ lowerLetter 'σ' = 'σ' ∧ lowerLetter 'ς' = 'ς') ∧
        lowerLetter 'ı' = 'ı' ∧ lowerLetter 'ſ' = 'ſ' := by
  decide +kernel

/-- Among the letters that share their upper case with one there is a letter in lower case. For a letter in ASCII that
is the small I without a dot or the long small S. -/
theorem sharedUpper_sound : ∀ q ∈ sharedUpper,
    (∃ code ∈ q.2, lowerLetter (Char.ofNat code) = Char.ofNat code ∧ (Char.ofNat code).toNat = code ∧ code ≠ q.1) ∧
      (128 ≤ q.1 ∨ q.2 = ['ı'.toNat] ∨ q.2 = ['ſ'.toNat]) := by
  decide +kernel

/-- The first letter of a text in lower case: a dotted capital I has two characters there, a capital sigma one of two
forms, and any other letter the one that is its own. -/
theorem lowerFrom_image (passed : Text) (c : Char) (t : Text) : ∃ image,
    lowerFrom passed (c :: t) = image ++ lowerFrom (c :: passed) t ∧
      (c = '\u0130' ∧ image = ['i', '\u0307'] ∨ c = 'Σ' ∧ (image = ['σ'] ∨ image = ['ς']) ∨
        (c ≠ '\u0130' ∧ c ≠ 'Σ') ∧ image = [lowerLetter c]) := by
  refine ⟨_, rfl, ?_⟩
  by_cases hsigma : c.toNat = 0x3A3
  · refine .inr (.inl ⟨Char.toNat_inj.1 hsigma, ?_⟩)
    rw [if_pos hsigma]
    split
    · exact .inr rfl
    · exact .inl rfl
  rw [if_neg hsigma, lowerSequence]
  by_cases hdotted : c.toNat = 0x130
  · rw [if_pos hdotted]
    exact .inl ⟨Char.toNat_inj.1 hdotted, rfl⟩
  · rw [if_neg hdotted]
    refine .inr (.inr ⟨⟨?_, ?_⟩, rfl⟩)
    · rintro rfl
      exact hdotted rfl
    · rintro rfl
      exact hsigma rfl

theorem settled_of_mem_lowerFrom {passed w : Text} : ∀ x ∈ lowerFrom passed w, lowerLetter x = x := by
  induction w generalizing passed with
  | nil => exact List.forall_mem_nil _
  | cons c w ih =>
    obtain ⟨image, himage, hcases⟩ := lowerFrom_image passed c w
    rw [himage, List.forall_mem_append]
    refine ⟨?_, ih⟩
    obtain ⟨-, -, ⟨hi, hdot, hs, hfinal⟩, -⟩ := lower_dotted_sigma
    rcases hcases with ⟨-, rfl⟩ | ⟨-, rfl | rfl⟩ | ⟨-, rfl⟩
    · simp [hi, hdot]
    · simp [hs]
    · simp [hfinal]
    · simpa using lowerLetter_settled c

theorem alike_lowerFrom {w : Text} (h : '\u0130' ∉ w) (passed : Text) : Alike (lowerFrom passed w) w := by
  induction w generalizing passed with
  | nil => exact .nil
  | cons c w ih =>
    obtain ⟨hc, hw⟩ := not_or.1 (mt List.mem_cons.2 h)
    obtain ⟨image, himage, hcases⟩ := lowerFrom_image passed c w
    rw [himage]
    rcases hcases with ⟨rfl, -⟩ | ⟨rfl, rfl | rfl⟩ | ⟨-, rfl⟩
    · exact absurd rfl hc
    · exact .cons lower_dotted_sigma.2.1.2.2.1 (ih hw _)
    · exact .cons lower_dotted_sigma.2.1.2.2.2 (ih hw _)
    · exact .cons (by simp [sameLetter, lowerLetter_settled]) (ih hw _)

theorem length_lowerFrom (passed w : Text) : (lowerFrom passed w).length = w.length + w.count '\u0130' := by
  induction w generalizing passed with
  | nil => rfl
  | cons c w ih =>
    obtain ⟨image, himage, hcases⟩ := lowerFrom_image passed c w
    rw [himage, List.length_append, ih, List.count_cons, List.length_cons]
    rcases hcases with ⟨rfl, rfl⟩ | ⟨rfl, rfl | rfl⟩ | ⟨⟨hc, -⟩, rfl⟩
    · simp; omega
    · simp; omega
    · simp; omega
    · simp [hc]; omega

/-- A name is like its own lower case, letter by letter, unless a letter of it has two characters there. -/
theorem alike_lower_iff {w : Text} : Alike (lower w) w ↔ '\u0130' ∉ w := by
  refine ⟨fun h hmem => ?_, fun h => alike_lowerFrom h []⟩
  have hlen := h.length_eq
  rw [lower, length_lowerFrom] at hlen
  have := List.count_pos_iff.2 hmem
  omega

/-- A text whose letters have these lower cases, none of which is taken in another way, has them for its lower case. -/
theorem lowerFrom_eq {name w : Text}
    (h : List.Forall₂ (fun n c => lowerLetter c = n ∧ c ≠ '\u0130' ∧ c ≠ 'Σ') name w) (passed : Text) :
    lowerFrom passed w = name := by
  induction h generalizing passed with
  | nil => rfl
  | @cons n c name w hc _ ih =>
    obtain ⟨rfl, hdotted, hsigma⟩ := hc
    obtain ⟨image, himage, hcases⟩ := lowerFrom_image passed c w
    rcases hcases with ⟨rfl, -⟩ | ⟨rfl, -⟩ | ⟨-, rfl⟩
    · exact absurd rfl hdotted
    · exact absurd rfl hsigma
    · rw [himage, ih]
      rfl

theorem lower_of_settled {w : Text} (h : ∀ c ∈ w, lowerLetter c = c) : lower w = w := by
  refine lowerFrom_eq (List.forall₂_same.2 fun c hc => ⟨h c hc, ?_, ?_⟩) []
  · rintro rfl
    exact absurd (lower_dotted_sigma.1.1.symm.trans (h _ hc)) (by decide)
  · rintro rfl
    exact absurd (lower_dotted_sigma.2.1.1.symm.trans (h _ hc)) (by decide)

theorem lowerLetter_of_sameLetter {n c : Char} (hn : lowerLetter n = n) (hshared : sharesUpper n = false)
    (h : sameLetter n c = true) : lowerLetter c = n := by
  rw [sharesUpper, Option.isSome_eq_false_iff, Option.isNone_iff_eq_none] at hshared
  simp only [sameLetter, hn, hshared, Bool.or_false, beq_iff_eq] at h
  exact h.symm

theorem exists_of_sharesUpper {n : Char} (hn : lowerLetter n = n) (h : sharesUpper n = true) :
    ∃ c, c ≠ n ∧ lowerLetter c = c ∧ sameLetter n c = true := by
  obtain ⟨q, hq⟩ := Option.isSome_iff_exists.1 h
  obtain ⟨code, hcode, hsettled, hvalid, hne⟩ := (sharedUpper_sound q (List.mem_of_find?_eq_some hq)).1
  have hkey : q.1 = n.toNat := by simpa using List.find?_some hq
  refine ⟨Char.ofNat code, ?_, hsettled, ?_⟩
  · rintro rfl
    exact hne (hvalid.symm.trans hkey.symm)
  · simp [sameLetter, hn, hq, hsettled, hvalid, hcode]

theorem Alike.lower_eq {name w : Text} (h : Alike name w) (hletters : ∀ n ∈ name, ∀ c ∈ w, sameLetter n c = true →
    lowerLetter c = n ∧ c ≠ '\u0130' ∧ c ≠ 'Σ') : lower w = name := by
  refine lowerFrom_eq ?_ []
  induction h with
  | nil => exact .nil
  | @cons n c name w hsame _ ih =>
    refine .cons (hletters n (List.mem_cons_self ..) c (List.mem_cons_self ..) hsame) (ih fun n hn c hc => ?_)
    exact hletters n (List.mem_cons_of_mem _ hn) c (List.mem_cons_of_mem _ hc)

theorem lowerSequence_subset_lowerFrom {w passed : Text} {c : Char} (hc : c ∈ w) (hsigma : c ≠ 'Σ') :
    lowerSequence c ⊆ lowerFrom passed w := by
  induction w generalizing passed with
  | nil => cases hc
  | cons d w ih =>
    rw [lowerFrom]
    rcases List.mem_cons.1 hc with rfl | hc
    · have hne : c.toNat ≠ 0x3A3 := fun h => hsigma (Char.toNat_inj.1 h)
      rw [if_neg hne]
      exact List.subset_append_left ..
    · exact List.subset_append_of_subset_right _ (ih hc)

theorem lowerFrom_ascii {w passed : Text} (h : ∀ c ∈ w, c.toNat < 128) : ∀ x ∈ lowerFrom passed w, x.toNat < 128 := by
  induction w generalizing passed with
  | nil => exact List.forall_mem_nil _
  | cons c w ih =>
    obtain ⟨hc, hw⟩ := List.forall_mem_cons.1 h
    obtain ⟨image, himage, hcases⟩ := lowerFrom_image passed c w
    rw [himage, List.forall_mem_append]
    refine ⟨?_, ih hw⟩
    rcases hcases with ⟨rfl, -⟩ | ⟨rfl, -⟩ | ⟨-, rfl⟩
    · exact absurd hc (by decide)
    · exact absurd hc (by decide)
    · simpa using (lowerLetter_ascii hc).1

theorem lowerLetter_of_sameLetter_ascii {n c : Char} (hsmall : n.toNat < 128) (hn : lowerLetter n = n)
    (h : sameLetter n c = true) : lowerLetter c = n ∨ c = 'ı' ∨ c = 'ſ' := by
  by_cases hshared : sharesUpper n = false
  · exact .inl (lowerLetter_of_sameLetter hn hshared h)
  obtain ⟨q, hq⟩ := Option.isSome_iff_exists.1 (Bool.not_eq_false _ ▸ hshared)
  have hkey : q.1 = n.toNat := by simpa using List.find?_some hq
  simp only [sameLetter, hn, hq, Bool.or_eq_true, beq_iff_eq] at h
  rcases h with h | h
  · exact .inl h.symm
  -- neither of the two letters is the lower case of another one
  have eq_of_toNat {d : Char} (hd : (lowerLetter c).toNat = d.toNat) (hlarge : 128 ≤ d.toNat)
      (hs : ⟨d.toNat, d.toNat, 1, 0⟩ ∈ lowerRuns ++ steadyRuns) : c = d := by
    have hc : 128 ≤ c.toNat := by
      by_contra hlow
      have := (lowerLetter_ascii (Nat.lt_of_not_le hlow)).1
      omega
    have hsame := eq_of_covers_lowerLetter hs hc (by rw [hd]; simp [CaseRun.covers])
    exact hsame.symm.trans (Char.toNat_inj.1 hd)
  rcases (sharedUpper_sound q (List.mem_of_find?_eq_some hq)).2 with hlarge | hdotless | hlong
  · omega
  · rw [hdotless] at h
    refine .inr (.inl (eq_of_toNat (by simpa using h) (by decide) (List.mem_append_right _ ?_)))
    exact .tail _ (.tail _ (.head _))
  · rw [hlong] at h
    refine .inr (.inr (eq_of_toNat (by simpa using h) (by decide) (List.mem_append_right _ ?_)))
    exact .tail _ (.tail _ (.tail _ (.head _)))

/-- Letter by letter like the lower case of a name are exactly the names of the same lower case, if and only if no
letter there shares its upper case. -/
theorem alike_eq_lower_iff (name : Text) :
    (∀ w, Alike (lower name) w ↔ lower w = lower name) ↔ ∀ c ∈ lower name, sharesUpper c = false := by
  have hsettled : ∀ c ∈ lower name, lowerLetter c = c := settled_of_mem_lowerFrom
  constructor
  · intro h n hn
    by_contra hshared
    obtain ⟨c, hne, hc, hsame⟩ := exists_of_sharesUpper (hsettled n hn) (Bool.not_eq_false _ ▸ hshared)
    obtain ⟨a, b, hname⟩ := List.append_of_mem hn
    rw [hname] at h hsettled
    have hrefl (t : Text) : Alike t t := List.forall₂_same.2 fun d _ => by simp [sameLetter]
    -- the same name with the other letter in this place
    have hw : lower (a ++ c :: b) = a ++ n :: b := (h _).1 (List.rel_append (hrefl a) (.cons hsame (hrefl b)))
    rw [lower_of_settled] at hw
    · exact hne (List.cons.inj (List.append_cancel_left hw)).1
    · intro d hd
      rcases List.mem_append.1 hd with hd | hd
      · exact hsettled d (List.mem_append_left _ hd)
      · rcases List.mem_cons.1 hd with rfl | hd
        · exact hc
        · exact hsettled d (List.mem_append_right _ (List.mem_cons_of_mem _ hd))
  · intro hshared w
    have hother {c : Char} (hc : c = '\u0130' ∨ c = 'Σ') (hmem : lowerLetter c ∈ lower name) : False := by
      have hfalse := hshared _ hmem
      obtain ⟨⟨hi, hshared⟩, ⟨hs, hshared', -⟩, -⟩ := lower_dotted_sigma
      rcases hc with rfl | rfl
      · rw [hi, hshared] at hfalse
        cases hfalse
      · rw [hs, hshared'] at hfalse
        cases hfalse
    constructor
    · intro hw
      refine hw.lower_eq fun n hn c _ hsame => ?_
      obtain rfl := lowerLetter_of_sameLetter (hsettled n hn) (hshared n hn) hsame
      exact ⟨rfl, fun hc => hother (.inl hc) hn, fun hc => hother (.inr hc) hn⟩
    · intro hw
      rw [← hw, alike_lower_iff]
      intro hdotted
      refine hother (.inl rfl) (hw ▸ lowerSequence_subset_lowerFrom hdotted (by decide) ?_)
      rw [lower_dotted_sigma.1.1]
      decide

/-- For a name in ASCII the two differ at three letters: the dotted capital I, the small I without a dot and the long
small S. -/
theorem alike_ascii {name w : Text} (h : ∀ c ∈ name, c.toNat < 128) (hw : Alike (lower name) w) :
    lower w = lower name ↔ ∀ c ∈ w, c ≠ '\u0130' ∧ c ≠ 'ı' ∧ c ≠ 'ſ' := by
  have hsmall : ∀ c ∈ lower name, c.toNat < 128 := lowerFrom_ascii h
  obtain ⟨-, ⟨hsigma, -⟩, -, hdotless, hlong⟩ := lower_dotted_sigma
  constructor
  · intro hlower c hc
    refine ⟨?_, ?_, ?_⟩
    · rintro rfl
      exact alike_lower_iff.1 (hlower ▸ hw) hc
    · rintro rfl
      have hmem : 'ı' ∈ lower w := lowerSequence_subset_lowerFrom hc (by decide) (by simp [lowerSequence, hdotless])
      exact absurd (hsmall _ (hlower ▸ hmem)) (by decide)
    · rintro rfl
      have hmem : 'ſ' ∈ lower w := lowerSequence_subset_lowerFrom hc (by decide) (by simp [lowerSequence, hlong])
      exact absurd (hsmall _ (hlower ▸ hmem)) (by decide)
  · intro hc
    refine hw.lower_eq fun n hn c hcw hsame => ?_
    obtain ⟨hdotted, hdotless, hlong⟩ := hc c hcw
    rcases lowerLetter_of_sameLetter_ascii (hsmall n hn) (settled_of_mem_lowerFrom n hn) hsame with rfl | rfl | rfl
    · refine ⟨rfl, hdotted, ?_⟩
      rintro rfl
      exact absurd (hsigma ▸ hsmall _ hn) (by decide)
    · exact absurd rfl hdotless
    · exact absurd rfl hlong

end ComponentFormat.Text
