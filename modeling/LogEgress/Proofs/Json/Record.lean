import LogEgress.Json.Decode
import LogEgress.Proofs.Except
import LogEgress.Proofs.Sorted

set_option autoImplicit false

/-! # What is read of a record

What is true of a record at the beginning and is kept by each field is true of it when it has been
read (`FieldReader.of_record`). The parts of a record that is read from an object are found under
their keys, whatever else the object has (`FieldReader.Fills.record`), and so are those of a map
(`Reader.get?_of_map`).
-/

namespace LogEgress.Json

/-! ## Invariants of records -/

namespace FieldReader

variable {σ : Type} {fields : List (FieldReader σ)} {I : σ → Prop}

/-- What is true of the start and is kept by each field is true of a record that is read. -/
theorem of_elements (hfields : ∀ f ∈ fields, ∀ v s s', I s → f.read v s = .ok s' → I s')
    {vs : List Value} {s s' : σ} (hs : I s) (h : elements fields s vs = .ok s') : I s' := by
  induction fields generalizing s vs with
  | nil =>
    cases vs with
    | nil =>
      cases h
      exact hs
    | cons v vs => cases h
  | cons f fields ih =>
    obtain ⟨hf, hrest⟩ := List.forall_mem_cons.mp hfields
    cases vs with
    | nil =>
      cases h
      exact hs
    | cons v vs =>
      obtain ⟨s₁, hread, h⟩ := exists_of_bind_eq_ok h
      exact ih hrest (hf v s s₁ hs hread) h

theorem of_member (hfields : ∀ f ∈ fields, ∀ v s s', I s → f.read v s = .ok s' → I s')
    {m : Option (List Char) × Value} {s s' : σ} (hs : I s) (h : member fields s m = .ok s') :
    I s' := by
  unfold member at h
  split at h
  · cases h
  · split at h
    · next f hfind =>
      split at h
      · cases h
      · exact hfields f (List.mem_of_find?_eq_some hfind) _ s s' hs h
    · obtain ⟨-, -, rfl⟩ := exists_of_map_eq_ok h
      exact hs

theorem of_record (hfields : ∀ f ∈ fields, ∀ v s s', I s → f.read v s = .ok s' → I s')
    {v : Value} {start s : σ} (hstart : I start) (h : record fields start v = .ok s) : I s := by
  unfold record at h
  split at h
  · next ms =>
    induction ms generalizing start with
    | nil =>
      cases h
      exact hstart
    | cons m ms ih =>
      obtain ⟨s₁, hmember, h⟩ := exists_of_bind_eq_ok h
      exact ih (of_member hfields hstart hmember) h
  · exact of_elements hfields hstart h
  · cases h

end FieldReader

/-! ## Members of objects -/

/-- The members of an object. -/
abbrev Members := List (Option (List Char) × Value)

/-- The value of the first member with a key. -/
def member? (ms : Members) (key : String) : Option Value :=
  (ms.find? fun m => m.1 = some key.toList).map (·.2)

theorem member?_cons_self (key : String) (v : Value) (ms : Members) :
    member? ((some key.toList, v) :: ms) key = some v := by
  simp [member?]

theorem member?_cons_of_ne {key : String} {m : Option (List Char) × Value}
    (h : m.1 ≠ some key.toList) (ms : Members) : member? (m :: ms) key = member? ms key := by
  rw [member?, List.find?_cons_of_neg (by simpa using h), member?]

namespace FieldReader

variable {σ α : Type}

/-- The field of a part that is read by itself, and then set in the state. -/
def part (name : String) (get : σ → Option α) (read : Reader α) (set : α → σ → σ) :
    FieldReader σ where
  name := name
  isSet s := (get s).isSome
  read v s := do return set (← read v) s

/-- A field leaves a part of the state as it is. -/
def Keeps (f : FieldReader σ) (get : σ → Option α) : Prop :=
  ∀ v s s', f.read v s = .ok s' → get s' = get s

theorem keeps_part {β : Type} {get : σ → Option α} {set : β → σ → σ}
    (h : ∀ x s, get (set x s) = get s) (name : String) (get' : σ → Option β) (read : Reader β) :
    (part name get' read set).Keeps get := by
  intro v s s' hread
  obtain ⟨x, -, hset⟩ := exists_of_bind_eq_ok hread
  cases hset
  exact h x s

/-- A part of a record, as `get` finds it in the state, is read by the fields of a name and by no
others. -/
structure Fills (fields : List (FieldReader σ)) (name : String) (get : σ → Option α)
    (read : Reader α) : Prop where
  exists_field : ∃ f ∈ fields, f.name = name
  isSet_eq : ∀ f ∈ fields, f.name = name → ∀ s, f.isSet s = (get s).isSome
  own : ∀ f ∈ fields, f.name = name → ∀ v s s', f.read v s = .ok s' →
    ∃ x, read v = .ok x ∧ get s' = some x
  other : ∀ f ∈ fields, f.name ≠ name → f.Keeps get

namespace Fills

variable {fields : List (FieldReader σ)} {name : String} {get : σ → Option α} {read : Reader α}

theorem head {set : α → σ → σ} (hset : ∀ x s, get (set x s) = some x)
    (hothers : ∀ f ∈ fields, f.name ≠ name ∧ f.Keeps get) :
    Fills (part name get read set :: fields) name get read where
  exists_field := ⟨_, List.mem_cons_self, rfl⟩
  isSet_eq := by
    intro f hf hname s
    rcases List.mem_cons.1 hf with rfl | hf
    · rfl
    · exact absurd hname (hothers f hf).1
  own := by
    intro f hf hname v s s' hread
    rcases List.mem_cons.1 hf with rfl | hf
    · obtain ⟨x, hx, hs'⟩ := exists_of_bind_eq_ok hread
      cases hs'
      exact ⟨x, hx, hset x s⟩
    · exact absurd hname (hothers f hf).1
  other := by
    intro f hf hname
    rcases List.mem_cons.1 hf with rfl | hf
    · exact absurd rfl hname
    · exact (hothers f hf).2

variable (h : Fills fields name get read)

include h

theorem tail {f : FieldReader σ} (hname : f.name ≠ name) (hkeeps : f.Keeps get) :
    Fills (f :: fields) name get read where
  exists_field := by
    obtain ⟨g, hg, hgname⟩ := h.exists_field
    exact ⟨g, List.mem_cons_of_mem f hg, hgname⟩
  isSet_eq g hg hgname :=
    h.isSet_eq g ((List.mem_cons.1 hg).resolve_left fun heq => hname (heq ▸ hgname)) hgname
  own g hg hgname :=
    h.own g ((List.mem_cons.1 hg).resolve_left fun heq => hname (heq ▸ hgname)) hgname
  other := by
    intro g hg hgname
    rcases List.mem_cons.1 hg with rfl | hg
    · exact hkeeps
    · exact h.other g hg hgname

/-- A member with the key of the part is read as the part, which must not be there before. -/
theorem member {m : Option (List Char) × Value} {s s' : σ} (hm : member fields s m = .ok s') :
    (m.1 = some name.toList ∧ get s = none ∧ ∃ x, read m.2 = .ok x ∧ get s' = some x) ∨
      (m.1 ≠ some name.toList ∧ get s' = get s) := by
  obtain ⟨key, v⟩ := m
  cases key with
  | none => cases hm
  | some k =>
    unfold FieldReader.member at hm
    cases hfind : fields.find? fun f => f.name.toList = k with
    | none =>
      -- A member that no field is named for is read over.
      simp only [hfind] at hm
      obtain ⟨-, -, rfl⟩ := exists_of_map_eq_ok hm
      obtain ⟨f, hf, rfl⟩ := h.exists_field
      refine .inr ⟨fun hkey => ?_, rfl⟩
      exact List.find?_eq_none.1 hfind f hf (decide_eq_true (Option.some.inj hkey).symm)
    | some f =>
      simp only [hfind] at hm
      have hf := List.mem_of_find?_eq_some hfind
      have hkey : f.name.toList = k := by simpa using List.find?_some hfind
      split at hm
      · cases hm
      · next hunset =>
        by_cases hname : f.name = name
        · refine .inl ⟨by rw [← hkey, hname], ?_, h.own f hf hname v s s' hm⟩
          rw [h.isSet_eq f hf hname] at hunset
          simpa using hunset
        · refine .inr ⟨fun hown => hname ?_, h.other f hf hname v s s' hm⟩
          exact String.toList_injective (hkey.trans (Option.some.inj hown))

/-- The part is read from the first member with its key. The induction is on the members. -/
theorem foldlM {ms : Members} {s s' : σ}
    (hms : ms.foldlM (FieldReader.member fields) s = .ok s') :
    (member? ms name = none ∧ get s' = get s) ∨
      (get s = none ∧ ∃ v x, member? ms name = some v ∧ read v = .ok x ∧ get s' = some x) := by
  induction ms generalizing s with
  | nil =>
    cases hms
    exact .inl ⟨rfl, rfl⟩
  | cons m ms ih =>
    obtain ⟨s₁, hmember, hrest⟩ := exists_of_bind_eq_ok hms
    obtain ⟨key, v⟩ := m
    rcases h.member hmember with ⟨hkey, hnone, x, hread, hx⟩ | ⟨hkey, hsame⟩
    · obtain rfl : key = some name.toList := hkey
      rcases ih hrest with ⟨-, hget⟩ | ⟨hagain, -⟩
      · exact .inr ⟨hnone, v, x, member?_cons_self name v ms, hread, hget.trans hx⟩
      · cases hx.symm.trans hagain
    · rw [member?_cons_of_ne hkey, ← hsame]
      exact ih hrest

theorem record {ms : Members} {start s : σ} (hstart : get start = none)
    (hs : record fields start (.object ms) = .ok s) :
    (member? ms name = none ∧ get s = none) ∨
      ∃ v x, member? ms name = some v ∧ read v = .ok x ∧ get s = some x := by
  rcases h.foldlM hs with ⟨hnone, hget⟩ | ⟨-, hsome⟩
  · exact .inl ⟨hnone, hget.trans hstart⟩
  · exact .inr hsome

end Fills

end FieldReader

/-! ## Texts, numbers and maps -/

/-- What is read as a whole is read from its value. -/
theorem of_readLast {α : Type} {read : Reader α} {found : Value × Bool} {x : α}
    (h : readLast read found = .ok x) : read found.1 = .ok x := by
  obtain ⟨x', hread, h⟩ := exists_of_bind_eq_ok h
  split at h
  · cases h
    exact hread
  · cases h

theorem Reader.eq_ofString {v : Value} {s : String} (h : Reader.string v = .ok s) :
    v = .ofString s := by
  unfold Reader.string at h
  split at h
  · cases h
    rw [Value.ofString, String.toList_ofList]
  · cases h

theorem Reader.eq_array_of_list {v : Value} {ss : List String}
    (h : Reader.list Reader.string v = .ok ss) : v = .array (ss.map Value.ofString) := by
  unfold Reader.list at h
  split at h
  · next vs =>
    have hvs : List.Forall₂ (fun v s => v = Value.ofString s) vs ss :=
      (mapM_eq_ok_iff.mp h).imp fun _ _ => Reader.eq_ofString
    have heq := List.forall₂_map_right_iff.mpr hvs
    rw [List.forall₂_eq_eq_eq] at heq
    rw [heq]
  · cases h

theorem Reader.le_of_natural {greatest n : Nat} {v : Value}
    (h : Reader.natural greatest v = .ok n) : n ≤ greatest := by
  unfold Reader.natural at h
  split at h
  · split at h
    · next hle =>
      cases h
      exact hle
    · cases h
  · cases h

/-- A number that may be null is read as the number that the value stands for, if any. -/
theorem Reader.natural?_of_optional {greatest : Nat} {v : Value} {id? : Option Nat}
    (h : Reader.optional (Reader.natural greatest) v = .ok id?) : id? = v.natural? := by
  by_cases hnull : v = .null
  · subst hnull
    cases h
    rfl
  · have h : (Reader.natural greatest v).map some = .ok id? := by
      cases v <;> first | exact absurd rfl hnull | exact h
    obtain ⟨n, hn, rfl⟩ := exists_of_map_eq_ok h
    unfold Reader.natural at hn
    split at hn
    · next m hm =>
      split at hn
      · cases hn
        exact hm.symm
      · cases hn
    · cases hn

/-- What entries give under a key is read from the first member with the key. -/
theorem Reader.lookup_of_entries {α : Type} {read : Reader α} {ms : Members}
    {es : List (String × α)} (h : List.Forall₂ (fun m e => Reader.entry read m = .ok e) ms es)
    (key : String) :
    (member? ms key = none ∧ es.lookup key = none) ∨
      ∃ v x, member? ms key = some v ∧ read v = .ok x ∧ es.lookup key = some x := by
  induction h with
  | nil => exact .inl ⟨rfl, rfl⟩
  | @cons m e ms es hm _ ih =>
    obtain ⟨k, v⟩ := m
    cases k with
    | none => cases hm
    | some k =>
      obtain ⟨x, hread, rfl⟩ := exists_of_map_eq_ok hm
      by_cases hkey : key = String.ofList k
      · subst hkey
        refine .inr ⟨v, x, ?_, hread, List.lookup_cons_self⟩
        have hself := member?_cons_self (String.ofList k) v ms
        rwa [String.toList_ofList] at hself
      · have hne : some k ≠ some key.toList := by
          rintro h
          rw [Option.some.inj h, String.ofList_toList] at hkey
          exact hkey rfl
        rw [member?_cons_of_ne hne, List.lookup_cons, beq_false_of_ne hkey]
        exact ih

theorem Reader.exists_object_of_map {α : Type} {read : Reader α} {v : Value}
    {m : SortedMap String α} (h : Reader.map read v = .ok m) : ∃ ms, v = .object ms := by
  unfold Reader.map at h
  split at h
  · exact ⟨_, rfl⟩
  · cases h

/-- What a map has under a key is read from the last member with the key. -/
theorem Reader.get?_of_map {α : Type} {read : Reader α} {ms : Members} {m : SortedMap String α}
    (h : Reader.map read (.object ms) = .ok m) (key : String) :
    (member? ms.reverse key = none ∧ m.get? key = none) ∨
      ∃ v x, member? ms.reverse key = some v ∧ read v = .ok x ∧ m.get? key = some x := by
  obtain ⟨es, hes, rfl⟩ := exists_of_map_eq_ok h
  rw [SortedMap.get?_ofList]
  exact Reader.lookup_of_entries (List.forall₂_reverse_iff.mpr (mapM_eq_ok_iff.mp hes)) key

end LogEgress.Json
