/-! # Ordered lists of keyed values

An entry keeps the place and the spelling of its first key and takes the value given last.
-/
namespace ComponentFormat.Keyed

variable {κ α : Type} [BEq κ]

def put (key : κ) (value : α) : List (κ × α) → List (κ × α)
  | [] => [(key, value)]
  | (k, v) :: more => if k == key then (k, value) :: more else (k, v) :: put key value more

def get? (key : κ) : List (κ × α) → Option α
  | [] => none
  | (k, v) :: more => if k == key then some v else get? key more

def override (lower upper : List (κ × α)) : List (κ × α) :=
  upper.foldl (fun entries p => put p.1 p.2 entries) lower

def ofPairs (pairs : List (κ × α)) : List (κ × α) :=
  override [] pairs

@[simp] theorem override_nil (lower : List (κ × α)) : override lower [] = lower := rfl

@[simp] theorem get?_put_self [LawfulBEq κ] (key : κ) (value : α) (entries : List (κ × α)) :
    get? key (put key value entries) = some value := by
  induction entries with
  | nil => simp [put, get?]
  | cons p more ih => by_cases h : p.1 == key <;> simp [put, get?, h, ih]

theorem get?_put_of_ne [LawfulBEq κ] {key other : κ} (h : other ≠ key) (value : α)
    (entries : List (κ × α)) : get? key (put other value entries) = get? key entries := by
  induction entries with
  | nil => simp [put, get?, h]
  | cons p more ih =>
    by_cases hp : p.1 == other
    · have := eq_of_beq hp
      subst this
      simp [put, get?, h]
    · simp [put, get?, hp, ih]

end ComponentFormat.Keyed
