import ComponentFormat.Options.Key
import ComponentFormat.Proofs.BareLines

/-! # Names in snake case and in camel case

A name in snake case is a row of words with a low line between each two; a name in camel case starts with a small letter
and has letters and digits behind it. The two kinds of names are the same ones spelled in two ways, and each spelling is
got back from the other (`Key.spellings_invert`).
-/
namespace ComponentFormat

namespace Key

def isSmall (c : Char) : Bool :=
  'a' ≤ c && c ≤ 'z'

def isLow (c : Char) : Bool :=
  isSmall c || isAsciiDigit c

def isAlphanumeric (c : Char) : Bool :=
  isAsciiLetter c || isAsciiDigit c

inductive IsWord : Text → Prop
  | mk {c : Char} {t : Text} (hc : isSmall c = true) (ht : ∀ d ∈ t, isLow d = true) : IsWord (c :: t)

/-- Words, with a low line between each two. -/
inductive IsSnake : Text → Prop
  | word {w : Text} (h : IsWord w) : IsSnake w
  | join {w s : Text} (h : IsWord w) (hs : IsSnake s) : IsSnake (w ++ '_' :: s)

/-- A small letter, with letters and digits behind it. -/
inductive IsCamel : Text → Prop
  | mk {c : Char} {t : Text} (hc : isSmall c = true) (ht : ∀ d ∈ t, isAlphanumeric d = true) : IsCamel (c :: t)

/-! ### Characters of names -/

theorem toNat_lt_of_alphanumeric {d : Char} (h : isAlphanumeric d = true) : d.toNat < 128 :=
  toNat_lt_of_isPlainNameChar (by rw [isPlainNameChar, Bool.or_eq_true]; exact .inl h)

theorem forall_alphanumeric (p : Char → Prop) (h : ∀ n < 128, isAlphanumeric (Char.ofNat n) = true → p (Char.ofNat n))
    {d : Char} (hd : isAlphanumeric d = true) : p d :=
  forall_ascii (fun c => isAlphanumeric c = true → p c) h (toNat_lt_of_alphanumeric hd) hd

theorem isAlphanumeric_of_isLow {d : Char} (h : isLow d = true) : isAlphanumeric d = true := by
  simp only [isLow, isSmall, isAlphanumeric, isAsciiLetter, Bool.or_eq_true] at h ⊢
  exact h.imp_left .inl

theorem isLow_of_isSmall {c : Char} (h : isSmall c = true) : isLow c = true := by
  rw [isLow, h, Bool.true_or]

theorem low_fixed {d : Char} (h : isLow d = true) : isCapital d = false ∧ d ≠ '_' ∧ Text.lowerLetter d = d :=
  forall_alphanumeric (fun d => isLow d = true → isCapital d = false ∧ d ≠ '_' ∧ Text.lowerLetter d = d)
    (by decide +kernel) (isAlphanumeric_of_isLow h) h

theorem small_raised {c : Char} (h : isSmall c = true) : Text.titleSequence c = [c.toUpper] ∧
    isCapital c.toUpper = true ∧ isAlphanumeric c.toUpper = true ∧ Text.lowerLetter c.toUpper = c :=
  forall_alphanumeric (fun c => isSmall c = true → Text.titleSequence c = [c.toUpper] ∧
    isCapital c.toUpper = true ∧ isAlphanumeric c.toUpper = true ∧ Text.lowerLetter c.toUpper = c)
    (by decide +kernel) (isAlphanumeric_of_isLow (isLow_of_isSmall h)) h

/-- A letter or digit that is in no word is the capital of a small letter. -/
theorem low_or_raised {d : Char} (h : isAlphanumeric d = true) :
    isLow d = true ∨ ∃ c, isSmall c = true ∧ c.toUpper = d := by
  have hall := forall_alphanumeric
    (fun d => isLow d = true ∨ isSmall (Text.lowerLetter d) = true ∧ (Text.lowerLetter d).toUpper = d)
    (by decide +kernel) h
  exact hall.imp_right fun hd => ⟨_, hd⟩

/-! ### From words to humps -/

theorem IsWord.low {w : Text} (h : IsWord w) : ∀ d ∈ w, isLow d = true := by
  cases h with
  | mk hc ht => exact List.forall_mem_cons.2 ⟨isLow_of_isSmall hc, ht⟩

theorem IsWord.splitAt {w : Text} (h : IsWord w) : Text.splitAt (· == '_') w = [w] :=
  Text.splitAt_of_forall fun d hd => beq_eq_false_iff_ne.2 (low_fixed (h.low d hd)).2.1

/-- The words with their first letters raised and nothing between them, as they stand behind another word. -/
def humps (s : Text) : Text :=
  (Text.splitAt (· == '_') s).flatMap Text.capitalize

theorem humps_word {c : Char} {t : Text} (h : IsWord (c :: t)) : humps (c :: t) = c.toUpper :: t := by
  have hsplit := h.splitAt
  cases h with
  | mk hc ht =>
    have hascii : ∀ d ∈ t, d.toNat < 128 := fun d hd => toNat_lt_of_alphanumeric (isAlphanumeric_of_isLow (ht d hd))
    have hlower : t.map Text.lowerLetter = t :=
      (List.map_congr_left fun d hd => (low_fixed (ht d hd)).2.2).trans (List.map_id' t)
    rw [humps, hsplit, List.flatMap_singleton, Text.capitalize, (small_raised hc).1, Text.lowerFrom_of_ascii hascii,
      hlower]
    rfl

theorem humps_join (w s : Text) : humps (w ++ '_' :: s) = humps w ++ humps s := by
  rw [humps, Text.splitAt_append rfl, List.flatMap_append]
  rfl

theorem camelCase_word {w : Text} (h : IsWord w) : camelCase w = w := by
  rw [camelCase, h.splitAt]
  exact List.append_nil w

theorem camelCase_join {w : Text} (h : IsWord w) (s : Text) : camelCase (w ++ '_' :: s) = w ++ humps s := by
  rw [camelCase, Text.splitAt_append rfl, h.splitAt]
  rfl

theorem IsSnake.alphanumeric_humps {s : Text} (h : IsSnake s) : ∀ d ∈ humps s, isAlphanumeric d = true := by
  have hword {w : Text} (h : IsWord w) : ∀ d ∈ humps w, isAlphanumeric d = true := by
    obtain ⟨hc, ht⟩ := id h
    rw [humps_word h]
    exact List.forall_mem_cons.2 ⟨(small_raised hc).2.2.1, fun d hd => isAlphanumeric_of_isLow (ht d hd)⟩
  induction h with
  | word h => exact hword h
  | join h _ ih =>
    rw [humps_join]
    exact List.forall_mem_append.2 ⟨hword h, ih⟩

theorem IsWord.isCamel_append {w t : Text} (h : IsWord w) (ht : ∀ d ∈ t, isAlphanumeric d = true) :
    IsCamel (w ++ t) := by
  cases h with
  | mk hc hw =>
    exact .mk hc (List.forall_mem_append.2 ⟨fun d hd => isAlphanumeric_of_isLow (hw d hd), ht⟩)

theorem IsSnake.isCamel {s : Text} (h : IsSnake s) : IsCamel (camelCase s) := by
  cases h with
  | word h =>
    have hcamel := h.isCamel_append (List.forall_mem_nil _)
    rwa [List.append_nil, ← camelCase_word h] at hcamel
  | join h hs =>
    rw [camelCase_join h]
    exact h.isCamel_append hs.alphanumeric_humps

/-! ### From humps to words -/

/-- What a character behind the first becomes: a capital its small letter, with a low line in front. -/
def lowered (d : Char) : Text :=
  if isCapital d then ['_', Text.lowerLetter d] else [d]

theorem snakeCase_camel {c : Char} {t : Text} (h : IsCamel (c :: t)) : snakeCase (c :: t) = c :: t.flatMap lowered := by
  obtain ⟨hc, ht⟩ := h
  have hlow := low_fixed (isLow_of_isSmall hc)
  have hascii : ∀ d ∈ separate (c :: t), d.toNat < 128 := by
    have halphanumeric := isAlphanumeric_of_isLow (isLow_of_isSmall hc)
    refine List.forall_mem_cons.2 ⟨toNat_lt_of_alphanumeric halphanumeric, fun e he => ?_⟩
    obtain ⟨d, hd, he⟩ := List.mem_flatMap.1 he
    have hlt := toNat_lt_of_alphanumeric (ht d hd)
    split at he
    · rcases List.mem_pair.1 he with rfl | rfl
      · decide
      · exact hlt
    · rwa [List.mem_singleton.1 he]
  have hlowered : ∀ d ∈ t, (if isCapital d then ['_', d] else [d]).map Text.lowerLetter = lowered d := by
    intro d hd
    unfold lowered
    split
    · rfl
    · next hcapital =>
      rcases low_or_raised (ht d hd) with hd | ⟨b, hb, rfl⟩
      · rw [List.map_singleton, (low_fixed hd).2.2]
      · exact absurd (small_raised hb).2.1 hcapital
  rw [snakeCase, Text.lower, Text.lowerFrom_of_ascii hascii, separate, List.map_cons, hlow.2.2, List.map_flatMap,
    List.flatMap_congr hlowered]

theorem flatMap_lowered_word {t : Text} (h : ∀ d ∈ t, isLow d = true) : t.flatMap lowered = t := by
  have hsame : ∀ d ∈ t, lowered d = [d] := fun d hd => if_neg (by simp [(low_fixed (h d hd)).1])
  rw [List.flatMap_congr hsame, List.flatMap_singleton']

/-- Humps lowered are the words again, behind a low line. -/
theorem IsSnake.flatMap_lowered_humps {s : Text} (h : IsSnake s) : (humps s).flatMap lowered = '_' :: s := by
  have hword {w : Text} (h : IsWord w) : (humps w).flatMap lowered = '_' :: w := by
    obtain ⟨hc, ht⟩ := id h
    obtain ⟨-, hcapital, -, hlower⟩ := small_raised hc
    rw [humps_word h, List.flatMap_cons, flatMap_lowered_word ht, lowered, if_pos hcapital, hlower]
    rfl
  induction h with
  | word h => exact hword h
  | join h _ ih => rw [humps_join, List.flatMap_append, hword h, ih, List.cons_append]

theorem IsSnake.snakeCase_camelCase {s : Text} (h : IsSnake s) : snakeCase (camelCase s) = s := by
  have hcamel := h.isCamel
  cases h with
  | word h =>
    obtain ⟨hc, ht⟩ := id h
    rw [camelCase_word h] at hcamel ⊢
    rw [snakeCase_camel hcamel, flatMap_lowered_word ht]
  | join h hs =>
    obtain ⟨hc, ht⟩ := id h
    rw [camelCase_join h] at hcamel ⊢
    rw [List.cons_append] at hcamel ⊢
    rw [snakeCase_camel hcamel, List.flatMap_append, flatMap_lowered_word ht, hs.flatMap_lowered_humps,
      List.cons_append]

/-- Letters and digits are the rest of a word, with or without humps behind it. -/
theorem exists_humps {t : Text} (h : ∀ d ∈ t, isAlphanumeric d = true) :
    ∃ u, (∀ d ∈ u, isLow d = true) ∧ (t = u ∨ ∃ s, IsSnake s ∧ t = u ++ humps s) := by
  induction t with
  | nil => exact ⟨[], List.forall_mem_nil _, .inl rfl⟩
  | cons d t ih =>
    obtain ⟨hd, ht⟩ := List.forall_mem_cons.1 h
    obtain ⟨u, hu, hrest⟩ := ih ht
    rcases low_or_raised hd with hd | ⟨c, hc, rfl⟩
    · refine ⟨d :: u, List.forall_mem_cons.2 ⟨hd, hu⟩, ?_⟩
      rcases hrest with rfl | ⟨s, hs, rfl⟩
      · exact .inl rfl
      · exact .inr ⟨s, hs, rfl⟩
    · -- the capital starts a word of its own, which `u` ends
      have hword : IsWord (c :: u) := .mk hc hu
      refine ⟨[], List.forall_mem_nil _, .inr ?_⟩
      rcases hrest with rfl | ⟨s, hs, rfl⟩
      · exact ⟨c :: t, .word hword, (humps_word hword).symm⟩
      · exact ⟨c :: u ++ '_' :: s, .join hword hs, by rw [humps_join, humps_word hword]; rfl⟩

theorem IsCamel.exists_snake {t : Text} (h : IsCamel t) : ∃ s, IsSnake s ∧ camelCase s = t := by
  obtain ⟨hc, ht⟩ := h
  obtain ⟨u, hu, hrest⟩ := exists_humps ht
  have hword := IsWord.mk hc hu
  rcases hrest with rfl | ⟨s, hs, rfl⟩
  · exact ⟨_, .word hword, camelCase_word hword⟩
  · exact ⟨_, .join hword hs, camelCase_join hword s⟩

/-- A name in snake case is one in camel case and comes back from it; a name in camel case is one in snake case and
comes back from it. So no two names in camel case are one in snake case. -/
theorem spellings_invert :
    (∀ s, IsSnake s → IsCamel (camelCase s) ∧ snakeCase (camelCase s) = s) ∧
    (∀ t, IsCamel t → IsSnake (snakeCase t) ∧ camelCase (snakeCase t) = t) ∧
    ∀ t u, IsCamel t → IsCamel u → snakeCase t = snakeCase u → t = u := by
  have hcamel : ∀ t, IsCamel t → IsSnake (snakeCase t) ∧ camelCase (snakeCase t) = t := by
    intro t ht
    obtain ⟨s, hs, rfl⟩ := ht.exists_snake
    rw [hs.snakeCase_camelCase]
    exact ⟨hs, rfl⟩
  refine ⟨fun s hs => ⟨hs.isCamel, hs.snakeCase_camelCase⟩, hcamel, fun t u ht hu h => ?_⟩
  rw [← (hcamel t ht).2, h, (hcamel u hu).2]

/-- Words of one letter, and a digit at the end. -/
theorem spellings_invert_letters :
    let s : Text := ['a'] ++ '_' :: (['b'] ++ '_' :: ['c', '1'])
    let t : Text := ['a', 'B', 'C', '1']
    (IsSnake s ∧ IsCamel (camelCase s) ∧ snakeCase (camelCase s) = s) ∧
    (IsCamel t ∧ IsSnake (snakeCase t) ∧ camelCase (snakeCase t) = t) ∧
    snakeCase t = snakeCase (camelCase s) ∧ t = camelCase s := by
  intro s t
  have hletter {c : Char} (hc : isSmall c = true) : IsWord [c] := .mk hc (List.forall_mem_nil _)
  have hs : IsSnake s := .join (hletter (by decide)) (.join (hletter (by decide))
    (.word (.mk (by decide) (List.all_eq_true.1 (by decide)))))
  have ht : IsCamel t := .mk (by decide) (List.all_eq_true.1 (by decide))
  obtain ⟨hsnake, hcamel, hsame⟩ := spellings_invert
  have hequal : snakeCase t = snakeCase (camelCase s) := by decide +kernel
  exact ⟨⟨hs, hsnake s hs⟩, ⟨ht, hcamel t ht⟩, hequal, hsame t (camelCase s) ht (hsnake s hs).1 hequal⟩

end Key

end ComponentFormat
