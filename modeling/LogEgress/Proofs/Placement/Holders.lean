import LogEgress.Placement
import LogEgress.Proofs.Sorted
import Mathlib.Data.Finset.Card

set_option autoImplicit false

/-! # Who holds what

Holdings are described by two views: the addresses that are known (`SortedMap.keys`) and the pairs
of an address and a binding that it holds (`Holdings.holds`). `ext_holds` says that nothing else
matters. The main statements are `holds_apply` and `mem_keys_apply`, which say what carrying out a
plan does to both views.
-/

namespace LogEgress

namespace Holdings

/-- The addresses that hold a binding. -/
def holders (s : Holdings) (b : Binding) : Finset String :=
  s.keys.toFinset.filter fun a => s.holds a b

theorem holds_iff {s : Holdings} {a : String} {b : Binding} :
    s.holds a b = true ↔ ∃ held, s.get? a = some held ∧ b ∈ held := by
  unfold holds
  cases s.get? a with
  | none => simp
  | some held => simp

theorem holds_iff_entry {s : Holdings} {a : String} {b : Binding} :
    s.holds a b = true ↔ ∃ held, (a, held) ∈ s.entries ∧ b ∈ held := by
  simp only [holds_iff, SortedMap.get?_eq_some_iff]

theorem mem_keys_of_holds {s : Holdings} {a : String} {b : Binding} (h : s.holds a b = true) :
    a ∈ s.keys := by
  obtain ⟨held, he, -⟩ := holds_iff_entry.1 h
  exact SortedMap.mem_keys_iff.2 ⟨held, he⟩

@[simp] theorem mem_holders {s : Holdings} {a : String} {b : Binding} :
    a ∈ s.holders b ↔ s.holds a b = true := by
  simp only [holders, Finset.mem_filter, List.mem_toFinset, and_iff_right_iff_imp]
  exact mem_keys_of_holds

/-- The copies of a binding are counted by its holders. -/
theorem copies_eq_card (s : Holdings) (b : Binding) : s.copies b = (s.holders b).card := by
  have hval : ∀ e ∈ s.entries, decide (b ∈ e.2) = s.holds e.1 b := by
    intro e he
    rw [holds, SortedMap.get?_eq_some_iff.2 he]
  have hlist : s.holders b = (s.keys.filter fun a => s.holds a b).toFinset := by
    rw [holders, List.toFinset_filter]
  rw [hlist, List.toFinset_card_of_nodup (s.nodup_keys.filter _), ← List.countP_eq_length_filter,
    copies, SortedMap.values, SortedMap.keys, List.countP_map, List.countP_map]
  exact List.countP_congr fun e he => by simp only [Function.comp, hval e he]

/-- What an address holds is given by whether it is known and the bindings that it holds. -/
theorem get?_congr {s t : Holdings} {a : String} (hk : a ∈ s.keys ↔ a ∈ t.keys)
    (h : ∀ b, s.holds a b = t.holds a b) : s.get? a = t.get? a := by
  cases hs : s.get? a with
  | none =>
    have ht : a ∉ t.keys := by
      rw [← hk]
      exact SortedMap.get?_eq_none_iff.1 hs
    rw [SortedMap.get?_eq_none_iff.2 ht]
  | some held =>
    have ha : a ∈ t.keys := by
      rw [← hk, SortedMap.mem_keys_iff]
      exact ⟨held, SortedMap.get?_eq_some_iff.1 hs⟩
    obtain ⟨held', ht⟩ := SortedMap.mem_keys_iff.1 ha
    have ht := SortedMap.get?_eq_some_iff.2 ht
    have e : held = held' := by
      refine SortedSet.ext_mem fun b => ?_
      have := h b
      simpa [holds, hs, ht] using this
    rw [ht, e]

/-- Holdings with the same addresses, each of which holds the same bindings, are equal. -/
theorem ext_holds {s t : Holdings} (hk : ∀ a, a ∈ s.keys ↔ a ∈ t.keys)
    (h : ∀ a b, s.holds a b = t.holds a b) : s = t :=
  SortedMap.ext_get? fun a => get?_congr (hk a) (h a)

end Holdings

namespace Placement

open Holdings

/-! ## Single changes -/

theorem holds_applyDelete (s : Holdings) (d : String × Binding) (a : String) (b : Binding) :
    (applyDelete s d).holds a b = true ↔ s.holds a b = true ∧ (a, b) ≠ d := by
  obtain ⟨a', b'⟩ := d
  simp only [holds_iff, applyDelete, SortedMap.get?_modify]
  by_cases ha : a = a'
  · subst ha
    simp only [if_true, Option.map_eq_some_iff]
    constructor
    · rintro ⟨_, ⟨held, hs, rfl⟩, hb⟩
      rw [SortedSet.mem_erase] at hb
      exact ⟨⟨held, hs, hb.1⟩, fun e => hb.2 (congrArg Prod.snd e)⟩
    · rintro ⟨⟨held, hs, hb⟩, hne⟩
      refine ⟨held.erase b', ⟨held, hs, rfl⟩, SortedSet.mem_erase.2 ⟨hb, ?_⟩⟩
      intro e
      exact hne (by rw [e])
  · simp [ha]

@[simp] theorem keys_applyDelete (s : Holdings) (d : String × Binding) :
    (applyDelete s d).keys = s.keys :=
  SortedMap.keys_modify ..

theorem holds_applyCreate (s : Holdings) (c : String × Binding) (a : String) (b : Binding) :
    (applyCreate s c).holds a b = true ↔ s.holds a b = true ∨ (a, b) = c := by
  obtain ⟨a', b'⟩ := c
  simp only [holds_iff, applyCreate, SortedMap.get?_insert]
  by_cases ha : a = a'
  · subst ha
    simp only [if_true, Option.some.injEq, exists_eq_left', SortedSet.mem_insert, Prod.mk.injEq,
      true_and]
    cases hs : s.get? a with
    | none => simp
    | some held => simp [or_comm]
  · simp [ha]

theorem mem_keys_applyCreate (s : Holdings) (c : String × Binding) (a : String) :
    a ∈ (applyCreate s c).keys ↔ a = c.1 ∨ a ∈ s.keys :=
  SortedMap.mem_keys_insert

/-! ## Carrying out a plan -/

theorem holds_foldl_applyDelete (ds : List (String × Binding)) (s : Holdings) (a : String)
    (b : Binding) :
    (ds.foldl applyDelete s).holds a b = true ↔ s.holds a b = true ∧ (a, b) ∉ ds := by
  induction ds generalizing s with
  | nil => simp
  | cons d ds ih =>
    rw [List.foldl_cons, ih, holds_applyDelete, List.mem_cons, not_or, and_assoc]

@[simp] theorem keys_foldl_applyDelete (ds : List (String × Binding)) (s : Holdings) :
    (ds.foldl applyDelete s).keys = s.keys := by
  induction ds generalizing s with
  | nil => rfl
  | cons d ds ih => rw [List.foldl_cons, ih, keys_applyDelete]

theorem holds_foldl_applyCreate (cs : List (String × Binding)) (s : Holdings) (a : String)
    (b : Binding) :
    (cs.foldl applyCreate s).holds a b = true ↔ s.holds a b = true ∨ (a, b) ∈ cs := by
  induction cs generalizing s with
  | nil => simp
  | cons c cs ih =>
    rw [List.foldl_cons, ih, holds_applyCreate, List.mem_cons, or_assoc]

theorem mem_keys_foldl_applyCreate (cs : List (String × Binding)) (s : Holdings) (a : String) :
    a ∈ (cs.foldl applyCreate s).keys ↔ a ∈ s.keys ∨ a ∈ cs.map Prod.fst := by
  induction cs generalizing s with
  | nil => simp
  | cons c cs ih =>
    rw [List.foldl_cons, ih, mem_keys_applyCreate, List.map_cons, List.mem_cons,
      or_comm (a := a = c.1), or_assoc]

/-- After a plan an address holds what it held but for the deletions, and the creations. -/
theorem holds_apply (s : Holdings) (p : Plan) (a : String) (b : Binding) :
    (apply s p).holds a b = true ↔
      s.holds a b = true ∧ (a, b) ∉ p.deletes ∨ (a, b) ∈ p.creates := by
  rw [apply, holds_foldl_applyCreate, holds_foldl_applyDelete]

/-- A plan makes no address known but those it creates at. -/
theorem mem_keys_apply (s : Holdings) (p : Plan) (a : String) :
    a ∈ (apply s p).keys ↔ a ∈ s.keys ∨ a ∈ p.creates.map Prod.fst := by
  rw [apply, mem_keys_foldl_applyCreate, keys_foldl_applyDelete]

end Placement

end LogEgress
