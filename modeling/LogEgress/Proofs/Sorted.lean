import LogEgress.Sorted.Map
import Mathlib.Data.List.Induction
import Mathlib.Data.List.Nodup
import Mathlib.Data.List.Sort

set_option autoImplicit false

/-! # Sets and maps by their members

Two sets with the same members are equal (`SortedSet.ext_mem`), and so are two maps that give the
same value at each key (`SortedMap.ext_get?`). With one equation for what each operation does to
membership or to a look-up, facts about containers are proved without a look at their lists.
-/

namespace LogEgress

namespace SortedSet

variable {α : Type} [LT α]

@[simp] theorem notMem_empty (a : α) : a ∉ (∅ : SortedSet α) := by
  intro h
  exact (List.not_mem_nil : a ∉ ([] : List α)) h

variable [LinearLT α]

/-- A set lists each member once. -/
theorem nodup_toList (s : SortedSet α) : s.toList.Nodup := by
  refine s.ascending.imp ?_
  intro a b h e
  exact LinearLT.irrefl b (e ▸ h)

/-- Sets with the same members are equal. -/
theorem ext_mem {s t : SortedSet α} (h : ∀ a, a ∈ s ↔ a ∈ t) : s = t := by
  have : Std.Irrefl (α := α) (· < ·) := ⟨LinearLT.irrefl⟩
  have : Std.Antisymm (α := α) (· < ·) :=
    ⟨fun a b hab hba => absurd (LinearLT.trans hab hba) (LinearLT.irrefl a)⟩
  have e : s.toList = t.toList := s.ascending.eq_of_mem_iff t.ascending h
  cases s
  cases t
  cases e
  rfl

end SortedSet

namespace SortedMap

variable {κ ν : Type} [LT κ]

/-- The keys of an entry are among the keys. -/
theorem mem_keys_iff {m : SortedMap κ ν} {k : κ} : k ∈ m.keys ↔ ∃ v, (k, v) ∈ m.entries := by
  simp [keys]

@[simp] theorem keys_mapValues {μ : Type} (f : κ → ν → μ) (m : SortedMap κ ν) :
    (m.mapValues f).keys = m.keys := by
  simp [keys, mapValues]

@[simp] theorem keys_modify [DecidableEq κ] (k : κ) (f : ν → ν) (m : SortedMap κ ν) :
    (m.modify k f).keys = m.keys :=
  keys_mapValues _ m

theorem mem_keys_filter {p : κ → ν → Bool} {m : SortedMap κ ν} {k : κ} :
    k ∈ (m.filter p).keys ↔ ∃ v, (k, v) ∈ m.entries ∧ p k v = true := by
  simp [mem_keys_iff, filter]

variable [LinearLT κ]

/-- A map has each key once. -/
theorem nodup_keys (m : SortedMap κ ν) : m.keys.Nodup := by
  refine m.ascending.imp ?_
  intro a b h e
  exact LinearLT.irrefl b (e ▸ h)

/-- Maps with the same keys list them alike. -/
theorem keys_eq {μ : Type} {m : SortedMap κ ν} {n : SortedMap κ μ}
    (h : ∀ k, k ∈ m.keys ↔ k ∈ n.keys) : m.keys = n.keys := by
  have e : (⟨m.keys, m.ascending⟩ : SortedSet κ) = ⟨n.keys, n.ascending⟩ :=
    SortedSet.ext_mem h
  exact congrArg SortedSet.toList e

/-- Of two entries with one key both have the same value. -/
theorem value_unique {m : SortedMap κ ν} {k : κ} {v w : ν} (hv : (k, v) ∈ m.entries)
    (hw : (k, w) ∈ m.entries) : v = w := by
  have h := List.inj_on_of_nodup_map (f := Prod.fst) m.nodup_keys hv hw rfl
  exact congrArg Prod.snd h

variable [DecidableEq κ]

/-! ## Looking up and entries -/

theorem get?_eq_some_iff {m : SortedMap κ ν} {k : κ} {v : ν} :
    m.get? k = some v ↔ (k, v) ∈ m.entries := by
  constructor
  · intro h
    obtain ⟨front, back, e, -⟩ := List.lookup_eq_some_iff.1 h
    rw [e]
    simp
  · intro h
    cases e : m.get? k with
    | none => exact absurd (List.lookup_eq_none_iff.1 e (k, v) h) (by simp)
    | some w =>
      obtain ⟨front, back, hw, -⟩ := List.lookup_eq_some_iff.1 e
      have hw : (k, w) ∈ m.entries := by
        rw [hw]
        simp
      rw [value_unique h hw]

theorem contains_iff {m : SortedMap κ ν} {k : κ} : m.contains k = true ↔ k ∈ m.keys := by
  rw [contains, Option.isSome_iff_exists, mem_keys_iff]
  simp only [get?_eq_some_iff]

theorem get?_eq_none_iff {m : SortedMap κ ν} {k : κ} : m.get? k = none ↔ k ∉ m.keys := by
  rw [← contains_iff, contains]
  simp

/-- Maps that give the same value at each key are equal. -/
theorem ext_get? {m n : SortedMap κ ν} (h : ∀ k, m.get? k = n.get? k) : m = n := by
  have : Std.Irrefl (α := κ × ν) fun a b => a.1 < b.1 := ⟨fun a => LinearLT.irrefl a.1⟩
  have : Std.Antisymm (α := κ × ν) fun a b => a.1 < b.1 :=
    ⟨fun a b hab hba => absurd (LinearLT.trans hab hba) (LinearLT.irrefl a.1)⟩
  have e : m.entries = n.entries := by
    refine List.Pairwise.eq_of_mem_iff (List.pairwise_map.1 m.ascending)
      (List.pairwise_map.1 n.ascending) ?_
    intro x
    rw [← get?_eq_some_iff, ← get?_eq_some_iff, h]
  cases m
  cases n
  cases e
  rfl

omit [LinearLT κ] in
@[simp] theorem get?_empty (k : κ) : (∅ : SortedMap κ ν).get? k = none := rfl

theorem get?_filter (p : κ → ν → Bool) (m : SortedMap κ ν) (k : κ) :
    (m.filter p).get? k = (m.get? k).filter (p k) := by
  refine Option.ext fun v => ?_
  simp [get?_eq_some_iff, filter, Option.filter_eq_some_iff]

theorem get?_mapValues {μ : Type} (f : κ → ν → μ) (m : SortedMap κ ν) (k : κ) :
    (m.mapValues f).get? k = (m.get? k).map (f k) := by
  refine Option.ext fun v => ?_
  simp only [get?_eq_some_iff, mapValues, Option.map_eq_some_iff, List.mem_map, Prod.mk.injEq,
    Prod.exists]
  constructor
  · rintro ⟨k', w, hw, rfl, rfl⟩
    exact ⟨w, hw, rfl⟩
  · rintro ⟨w, hw, rfl⟩
    exact ⟨k, w, hw, rfl, rfl⟩

theorem get?_modify (k j : κ) (f : ν → ν) (m : SortedMap κ ν) :
    (m.modify k f).get? j = if j = k then (m.get? j).map f else m.get? j := by
  rw [modify, get?_mapValues]
  by_cases h : j = k
  · simp [h]
  · simp [h]

theorem get?_erase (k j : κ) (m : SortedMap κ ν) :
    (m.erase k).get? j = if j = k then none else m.get? j := by
  rw [erase, get?_filter]
  by_cases h : j = k
  · simp [h]
  · rw [if_neg h]
    cases m.get? j with
    | none => rfl
    | some v => simp [h]

variable [DecidableLT κ]

theorem mem_keys_insert {k j : κ} {v : ν} {m : SortedMap κ ν} :
    j ∈ (m.insert k v).keys ↔ j = k ∨ j ∈ m.keys := by
  rw [← contains_iff, ← contains_iff, contains, contains, get?_insert]
  by_cases h : j = k
  · simp [h]
  · simp [h]

/-! ## Maps of lists -/

/-- Of several entries with one key the last one counts. -/
theorem get?_ofList (es : List (κ × ν)) (k : κ) :
    (ofList es : SortedMap κ ν).get? k = es.reverse.lookup k := by
  induction es using List.reverseRecOn with
  | nil => rfl
  | append_singleton es e ih =>
    obtain ⟨j, v⟩ := e
    have hstep : (ofList (es ++ [(j, v)]) : SortedMap κ ν) = (ofList es).insert j v := by
      simp [ofList]
    rw [hstep, get?_insert, ih, List.reverse_append]
    by_cases h : k = j
    · simp [h]
    · have hk : (k == j) = false := by simp [h]
      simp [List.lookup_cons, hk, h]

theorem mem_keys_ofList {es : List (κ × ν)} {k : κ} :
    k ∈ (ofList es : SortedMap κ ν).keys ↔ k ∈ es.map Prod.fst := by
  rw [← not_iff_not, ← get?_eq_none_iff, get?_ofList, List.lookup_eq_none_iff]
  simp only [List.mem_reverse, bne_iff_ne, ne_eq, List.mem_map, not_exists, not_and]
  exact ⟨fun h e he hk => h e he hk.symm, fun h e he hk => h e he hk.symm⟩

/-- If no key is repeated, every entry of the list counts. -/
theorem get?_ofList_eq_some_iff {es : List (κ × ν)} (h : (es.map Prod.fst).Nodup) {k : κ} {v : ν} :
    (ofList es : SortedMap κ ν).get? k = some v ↔ (k, v) ∈ es := by
  rw [get?_ofList]
  constructor
  · intro e
    obtain ⟨front, back, e, -⟩ := List.lookup_eq_some_iff.1 e
    rw [← List.mem_reverse, e]
    simp
  · intro hv
    cases e : es.reverse.lookup k with
    | none => exact absurd (List.lookup_eq_none_iff.1 e (k, v) (by simpa using hv)) (by simp)
    | some w =>
      obtain ⟨front, back, e, -⟩ := List.lookup_eq_some_iff.1 e
      have hw : (k, w) ∈ es := by
        rw [← List.mem_reverse, e]
        simp
      exact congrArg some (congrArg Prod.snd (List.inj_on_of_nodup_map h hw hv rfl))

/-- The order of entries with different keys does not matter. -/
theorem ofList_perm {es es' : List (κ × ν)} (h : es.Perm es') (hn : (es.map Prod.fst).Nodup) :
    (ofList es : SortedMap κ ν) = ofList es' := by
  have hn' : (es'.map Prod.fst).Nodup := (h.map Prod.fst).nodup_iff.1 hn
  refine ext_get? fun k => Option.ext fun v => ?_
  rw [get?_ofList_eq_some_iff hn, get?_ofList_eq_some_iff hn', h.mem_iff]

/-- A map is the map of its entries in any order. -/
theorem ofList_eq {es : List (κ × ν)} {m : SortedMap κ ν} (h : es.Perm m.entries) :
    ofList es = m := by
  have hn : (es.map Prod.fst).Nodup := (h.map Prod.fst).nodup_iff.2 m.nodup_keys
  refine ext_get? fun k => Option.ext fun v => ?_
  rw [get?_ofList_eq_some_iff hn, get?_eq_some_iff, h.mem_iff]

/-- Entries with different keys are all kept. -/
theorem size_ofList {es : List (κ × ν)} (hn : (es.map Prod.fst).Nodup) :
    (ofList es : SortedMap κ ν).size = es.length := by
  have hp : (ofList es : SortedMap κ ν).keys.Perm (es.map Prod.fst) :=
    (List.perm_ext_iff_of_nodup (nodup_keys _) hn).2 fun _ => mem_keys_ofList
  have hlen := hp.length_eq
  rwa [keys, List.length_map, List.length_map] at hlen

end SortedMap

end LogEgress
