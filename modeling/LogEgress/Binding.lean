import LogEgress.Sorted.Order
import LogEgress.Text.Utf8

set_option autoImplicit false

/-! # Bindings

A binding ties an application to an external drain. Two bindings with the same three fields are
the same binding everywhere. Bindings are ordered field by field (`Binding.lt_trans`,
`Binding.lt_trichotomous`), and have a hash that depends on nothing but their fields.
-/

namespace LogEgress

/-- An application whose logs go to an external drain. -/
structure Binding where
  /-- The application whose logs are drained. -/
  appId : String
  /-- The host name that the log lines carry. -/
  hostname : String
  /-- The URL of the drain. -/
  drain : String
  deriving DecidableEq, Repr, Inhabited

namespace Binding

/-- The key by which the log provider routes: of several streams with one key each envelope goes
to exactly one. -/
def shardId (b : Binding) : String := b.appId ++ b.hostname ++ b.drain

/-- A binding as messages show it. -/
def display (b : Binding) : String := b.appId ++ " (" ++ b.hostname ++ ") -> " ++ b.drain

/-! ## Order -/

/-- Bindings are compared by application, then by host name, then by drain. The order of texts by
code point is the order of their UTF-8 forms by octet. -/
instance : LT Binding := ⟨fun a b =>
  a.appId < b.appId ∨ a.appId = b.appId ∧
    (a.hostname < b.hostname ∨ a.hostname = b.hostname ∧ a.drain < b.drain)⟩

instance : DecidableLT Binding := fun a b => inferInstanceAs (Decidable
  (a.appId < b.appId ∨ a.appId = b.appId ∧
    (a.hostname < b.hostname ∨ a.hostname = b.hostname ∧ a.drain < b.drain)))

theorem lt_def {a b : Binding} : a < b ↔ a.appId < b.appId ∨ a.appId = b.appId ∧
    (a.hostname < b.hostname ∨ a.hostname = b.hostname ∧ a.drain < b.drain) := Iff.rfl

theorem lt_trans {a b c : Binding} (hab : a < b) (hbc : b < c) : a < c := by
  rw [lt_def] at *
  rcases hab with h | ⟨e, h⟩
  · rcases hbc with k | ⟨e', _⟩
    · exact .inl (String.lt_trans h k)
    · exact .inl (e' ▸ h)
  · rcases hbc with k | ⟨e', k⟩
    · exact .inl (e ▸ k)
    · refine .inr ⟨e.trans e', ?_⟩
      rcases h with h | ⟨f, h⟩
      · rcases k with k | ⟨f', _⟩
        · exact .inl (String.lt_trans h k)
        · exact .inl (f' ▸ h)
      · rcases k with k | ⟨f', k⟩
        · exact .inl (f ▸ k)
        · exact .inr ⟨f.trans f', String.lt_trans h k⟩

theorem lt_irrefl (a : Binding) : ¬ a < a := by
  simp [lt_def]

theorem lt_trichotomous {a b : Binding} (h : ¬ a < b) (k : ¬ b < a) : a = b := by
  rw [lt_def, not_or, not_and, not_or, not_and] at h k
  have e₁ : a.appId = b.appId := LinearLT.eq_of_not_lt h.1 k.1
  have h' := h.2 e₁
  have k' := k.2 e₁.symm
  have e₂ : a.hostname = b.hostname := LinearLT.eq_of_not_lt h'.1 k'.1
  have e₃ : a.drain = b.drain := LinearLT.eq_of_not_lt (h'.2 e₂) (k'.2 e₂.symm)
  cases a; cases b; simp_all

instance : LinearLT Binding := ⟨lt_irrefl, lt_trans, lt_trichotomous⟩

/-! ## Hash -/

/-- One step of the 64-bit FNV-1a hash. -/
def hashOctet (h : UInt64) (b : UInt8) : UInt64 := (h ^^^ b.toUInt64) * 0x100000001b3

/-- The 64-bit FNV-1a hash of some octets. -/
def hashOctets (o : Octets) : UInt64 := o.foldl hashOctet 0xcbf29ce484222325

/-- The hash of a binding: of its fields in UTF-8, a zero octet between neighbours. It is the same
on every machine and in every run. -/
def stableHash (b : Binding) : UInt64 :=
  hashOctets (utf8 b.appId.toList ++ [0] ++ utf8 b.hostname.toList ++ [0] ++
    utf8 b.drain.toList)

end Binding

end LogEgress
