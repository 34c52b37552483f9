import LogEgress.Sorted.Order

set_option autoImplicit false

/-! # Finite sets as strictly ascending lists

A finite set over a linearly ordered type is kept as the list of its members in strictly
ascending order, so equal sets are equal values and listing a set is reading its field.
The main statements say what each operation does to membership: `mem_insert`, `mem_erase`,
`mem_filter` and `mem_ofList`.
-/

namespace LogEgress

/-- A finite set: its members in strictly ascending order. -/
structure SortedSet (α : Type) [LT α] where
  /-- The members, least first. -/
  toList : List α
  /-- Each member is less than every later one. -/
  ascending : toList.Pairwise (· < ·)

namespace SortedSet

variable {α : Type} [LT α]

instance [DecidableEq α] : DecidableEq (SortedSet α) := fun s t =>
  if h : s.toList = t.toList then
    isTrue (by cases s; cases t; cases h; rfl)
  else isFalse (fun e => h (e ▸ rfl))

instance : Membership α (SortedSet α) := ⟨fun s a => a ∈ s.toList⟩

instance [DecidableEq α] (a : α) (s : SortedSet α) : Decidable (a ∈ s) :=
  inferInstanceAs (Decidable (a ∈ s.toList))

theorem mem_def {a : α} {s : SortedSet α} : a ∈ s ↔ a ∈ s.toList := Iff.rfl

/-- The set without members. -/
def empty : SortedSet α := ⟨[], .nil⟩

instance : EmptyCollection (SortedSet α) := ⟨empty⟩

instance : Inhabited (SortedSet α) := ⟨empty⟩

/-- The number of members. -/
def size (s : SortedSet α) : Nat := s.toList.length

/-- The members that pass a test. -/
def filter (p : α → Bool) (s : SortedSet α) : SortedSet α :=
  ⟨s.toList.filter p, s.ascending.filter p⟩

/-- Puts a value at its place in an ascending list, unless it is there already. -/
def place [DecidableLT α] (a : α) : List α → List α
  | [] => [a]
  | b :: bs => if a < b then a :: b :: bs else if b < a then b :: place a bs else b :: bs

/-! ## Insertion keeps the order -/

theorem mem_of_mem_place [DecidableLT α] {a x : α} {l : List α} :
    x ∈ place a l → x = a ∨ x ∈ l := by
  induction l with
  | nil => simp [place]
  | cons b bs ih =>
    simp only [place]
    split
    · simp
    · split
      · intro h
        rcases List.mem_cons.1 h with h | h
        · exact .inr (h ▸ List.mem_cons_self)
        · rcases ih h with h | h
          · exact .inl h
          · exact .inr (List.mem_cons_of_mem _ h)
      · exact .inr

theorem pairwise_place [DecidableLT α] [LinearLT α] {a : α}
    {l : List α} (h : l.Pairwise (· < ·)) : (place a l).Pairwise (· < ·) := by
  induction l with
  | nil => simp [place]
  | cons b bs ih =>
    have hb := List.pairwise_cons.1 h
    simp only [place]
    split
    · rename_i hab
      refine List.pairwise_cons.2 ⟨fun x hx => ?_, h⟩
      rcases List.mem_cons.1 hx with rfl | hx
      · exact hab
      · exact LinearLT.trans hab (hb.1 x hx)
    · split
      · rename_i hba
        refine List.pairwise_cons.2 ⟨fun x hx => ?_, ih hb.2⟩
        rcases mem_of_mem_place hx with rfl | hx
        · exact hba
        · exact hb.1 x hx
      · exact h

variable [DecidableLT α] [LinearLT α]

/-- Adds a member. -/
def insert (a : α) (s : SortedSet α) : SortedSet α :=
  ⟨place a s.toList, pairwise_place s.ascending⟩

/-- The set of the values of a list. -/
def ofList (l : List α) : SortedSet α := l.foldr insert empty

/-- Removes a member. -/
def erase [DecidableEq α] (a : α) (s : SortedSet α) : SortedSet α :=
  s.filter (· ≠ a)

/-! ## Membership -/

omit [DecidableLT α] [LinearLT α] in
@[simp] theorem mem_filter {p : α → Bool} {a : α} {s : SortedSet α} :
    a ∈ s.filter p ↔ a ∈ s ∧ p a = true := by
  simp [mem_def, filter]

theorem mem_place {a x : α} {l : List α} :
    x ∈ place a l ↔ x = a ∨ x ∈ l := by
  refine ⟨mem_of_mem_place, ?_⟩
  induction l with
  | nil => simp [place]
  | cons b bs ih =>
    simp only [place]
    split
    · simp
    · rename_i hab
      split
      · intro h
        rcases h with h | h
        · exact List.mem_cons_of_mem _ (ih (.inl h))
        · rcases List.mem_cons.1 h with h | h
          · exact h ▸ List.mem_cons_self
          · exact List.mem_cons_of_mem _ (ih (.inr h))
      · rename_i hba
        have e : a = b := LinearLT.eq_of_not_lt hab hba
        simp [e]

@[simp] theorem mem_insert {a x : α} {s : SortedSet α} :
    x ∈ s.insert a ↔ x = a ∨ x ∈ s := mem_place

omit [DecidableLT α] [LinearLT α] in
@[simp] theorem mem_erase [DecidableEq α] {a x : α} {s : SortedSet α} :
    x ∈ s.erase a ↔ x ∈ s ∧ x ≠ a := by
  simp [erase]

@[simp] theorem mem_ofList {x : α} {l : List α} :
    x ∈ ofList l ↔ x ∈ l := by
  induction l with
  | nil => simp [ofList, empty, mem_def]
  | cons b bs ih =>
    rw [show ofList (b :: bs) = (ofList bs).insert b from rfl]
    simp [ih]

end SortedSet

end LogEgress
