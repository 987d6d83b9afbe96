/-! # Lists in the order of a number

Items are put in ascending order of a key; items with one key keep the order in which they came. Main statements:
`perm_ofList` and `pairwise_ofList`, nothing is lost and the keys ascend.
-/
namespace ComponentFormat.Sorted

variable {α : Type} (key : α → Nat)

/-- In front of the first item whose key is not smaller. -/
def insert (a : α) : List α → List α
  | [] => [a]
  | b :: more => if key a ≤ key b then a :: b :: more else b :: insert a more

def ofList : List α → List α
  | [] => []
  | a :: more => insert key a (ofList more)

theorem perm_insert (a : α) (items : List α) : (insert key a items).Perm (a :: items) := by
  induction items with
  | nil => exact .refl _
  | cons b more ih =>
    rw [insert]
    split
    · exact .refl _
    · exact (ih.cons b).trans (.swap a b more)

theorem perm_ofList (items : List α) : (ofList key items).Perm items := by
  induction items with
  | nil => exact .refl _
  | cons a more ih => exact (perm_insert key a _).trans (ih.cons a)

theorem pairwise_insert (a : α) {items : List α} (h : items.Pairwise fun b c => key b ≤ key c) :
    (insert key a items).Pairwise fun b c => key b ≤ key c := by
  induction items with
  | nil => exact List.pairwise_singleton ..
  | cons b more ih =>
    obtain ⟨hb, hmore⟩ := List.pairwise_cons.1 h
    rw [insert]
    split
    · next hab =>
      refine List.pairwise_cons.2 ⟨fun c hc => ?_, h⟩
      rcases List.mem_cons.1 hc with rfl | hc
      · exact hab
      · exact Nat.le_trans hab (hb c hc)
    · next hab =>
      refine List.pairwise_cons.2 ⟨fun c hc => ?_, ih hmore⟩
      rcases List.mem_cons.1 ((perm_insert key a more).mem_iff.1 hc) with rfl | hc
      · omega
      · exact hb c hc

theorem pairwise_ofList (items : List α) : (ofList key items).Pairwise fun a b => key a ≤ key b := by
  induction items with
  | nil => exact .nil
  | cons a more ih => exact pairwise_insert key a ih

theorem ofList_eq_self {items : List α} (h : items.Pairwise fun a b => key a ≤ key b) :
    ofList key items = items := by
  induction items with
  | nil => rfl
  | cons a more ih =>
    obtain ⟨ha, hmore⟩ := List.pairwise_cons.1 h
    rw [ofList, ih hmore]
    cases more with
    | nil => rfl
    | cons b more => rw [insert, if_pos (ha b (List.mem_cons_self ..))]

end ComponentFormat.Sorted
