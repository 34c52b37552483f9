set_option autoImplicit false

/-! # Strict linear orders

The order that the members of a finite set and the keys of a finite map have to have.
-/

namespace LogEgress

/-- The relation `<` of a type is a strict linear order. -/
class LinearLT (α : Type) [LT α] : Prop where
  irrefl (a : α) : ¬ a < a
  trans {a b c : α} : a < b → b < c → a < c
  /-- Of two different values one is less than the other. -/
  eq_of_not_lt {a b : α} : ¬ a < b → ¬ b < a → a = b

/-- Texts are ordered by their characters. The order by code point is the order of their UTF-8
forms by octet. -/
instance : LinearLT String where
  irrefl := String.lt_irrefl
  trans := String.lt_trans
  eq_of_not_lt h k := Std.Trichotomous.trichotomous (r := (· < ·)) _ _ h k

end LogEgress
