import LogEgress.Sorted.Set

set_option autoImplicit false

/-! # Finite maps as lists with strictly ascending keys

A finite map keeps its entries in the order of their keys, each key once, so equal maps are
equal values. The main statement is `get?_insert`: an insertion changes the value at its own
key and at no other.
-/

namespace LogEgress

/-- A finite map: its entries, their keys in strictly ascending order. -/
structure SortedMap (κ ν : Type) [LT κ] where
  /-- The entries, least key first. -/
  entries : List (κ × ν)
  /-- Each key is less than every later one. -/
  ascending : (entries.map Prod.fst).Pairwise (· < ·)

namespace SortedMap

variable {κ ν : Type} [LT κ]

instance [DecidableEq κ] [DecidableEq ν] : DecidableEq (SortedMap κ ν) := fun s t =>
  if h : s.entries = t.entries then
    isTrue (by cases s; cases t; cases h; rfl)
  else isFalse (fun e => h (e ▸ rfl))

/-- The map without entries. -/
def empty : SortedMap κ ν := ⟨[], by simp⟩

instance : EmptyCollection (SortedMap κ ν) := ⟨empty⟩

instance : Inhabited (SortedMap κ ν) := ⟨empty⟩

/-- The keys, in ascending order. -/
def keys (m : SortedMap κ ν) : List κ := m.entries.map Prod.fst

/-- The values, in the order of their keys. -/
def values (m : SortedMap κ ν) : List ν := m.entries.map Prod.snd

/-- The number of entries. -/
def size (m : SortedMap κ ν) : Nat := m.entries.length

/-- The value at a key. -/
def get? [DecidableEq κ] (m : SortedMap κ ν) (k : κ) : Option ν := m.entries.lookup k

/-- Whether a key has a value. -/
def contains [DecidableEq κ] (m : SortedMap κ ν) (k : κ) : Bool := (m.get? k).isSome

/-- Keeps the entries that pass a test. -/
def filter (p : κ → ν → Bool) (m : SortedMap κ ν) : SortedMap κ ν :=
  ⟨m.entries.filter (fun e => p e.1 e.2),
    List.Pairwise.sublist (List.filter_sublist.map Prod.fst) m.ascending⟩

/-- Changes each value in place. -/
def mapValues {μ : Type} (f : κ → ν → μ) (m : SortedMap κ ν) : SortedMap κ μ :=
  ⟨m.entries.map (fun e => (e.1, f e.1 e.2)), by
    have h : (m.entries.map (fun e => (e.1, f e.1 e.2))).map Prod.fst
        = m.entries.map Prod.fst := by simp
    exact h ▸ m.ascending⟩

/-- Changes the value at a key, if there is one. -/
def modify [DecidableEq κ] (k : κ) (f : ν → ν) (m : SortedMap κ ν) : SortedMap κ ν :=
  m.mapValues fun k' v => if k' = k then f v else v

/-- Puts an entry at its place, over the one with the same key if there is one. -/
def place [DecidableLT κ] (k : κ) (v : ν) : List (κ × ν) → List (κ × ν)
  | [] => [(k, v)]
  | (k', v') :: es =>
    if k < k' then (k, v) :: (k', v') :: es
    else if k' < k then (k', v') :: place k v es
    else (k', v) :: es

theorem keys_place [DecidableLT κ] (k : κ) (v : ν) (es : List (κ × ν)) :
    (place k v es).map Prod.fst = SortedSet.place k (es.map Prod.fst) := by
  induction es with
  | nil => rfl
  | cons e es ih =>
    obtain ⟨k', v'⟩ := e
    simp only [place, SortedSet.place, List.map_cons]
    split
    · rfl
    · split
      · simp [ih]
      · rfl

variable [DecidableLT κ] [LinearLT κ]

/-- Sets the value at a key. -/
def insert (k : κ) (v : ν) (m : SortedMap κ ν) : SortedMap κ ν :=
  ⟨place k v m.entries, by
    rw [keys_place]; exact SortedSet.pairwise_place m.ascending⟩

/-- The map of the entries of a list; of several entries with one key the last one counts. -/
def ofList (es : List (κ × ν)) : SortedMap κ ν :=
  es.foldl (fun m e => m.insert e.1 e.2) empty

/-- Removes the entry with a key. -/
def erase [DecidableEq κ] (k : κ) (m : SortedMap κ ν) : SortedMap κ ν :=
  m.filter fun k' _ => k' ≠ k

/-! ## Looking up -/

theorem lookup_place [DecidableEq κ] (k j : κ) (v : ν) (es : List (κ × ν)) :
    (place k v es).lookup j = if j = k then some v else es.lookup j := by
  induction es with
  | nil =>
    by_cases h : j = k
    · simp [place, h]
    · have hj : (j == k) = false := by simp [h]
      simp [place, h]
  | cons e es ih =>
    obtain ⟨k', v'⟩ := e
    simp only [place]
    split
    · by_cases h : j = k
      · simp [h]
      · have hj : (j == k) = false := by simp [h]
        simp [List.lookup_cons, hj, h]
    · rename_i hk
      split
      · rename_i hk'
        have hne : k ≠ k' := fun e => LinearLT.irrefl k (e ▸ hk')
        by_cases h : j = k'
        · subst h
          simp [Ne.symm hne]
        · have : (j == k') = false := by simp [h]
          simp [List.lookup_cons, this, ih]
      · rename_i hk'
        have e : k = k' := LinearLT.eq_of_not_lt hk hk'
        subst e
        by_cases h : j = k
        · simp [h]
        · have : (j == k) = false := by simp [h]
          simp [List.lookup_cons, this, h]

theorem get?_insert [DecidableEq κ] (k j : κ) (v : ν) (m : SortedMap κ ν) :
    (m.insert k v).get? j = if j = k then some v else m.get? j :=
  lookup_place k j v m.entries

end SortedMap

end LogEgress
