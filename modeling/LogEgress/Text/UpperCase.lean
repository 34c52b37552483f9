import LogEgress.Text.UpperCase.Table

set_option autoImplicit false

/-! # Upper case

The upper-case form of a text replaces each character by its full Unicode upper-case form, which
may have several characters (`ß` becomes `SS`). No language-dependent rule applies.
-/

namespace LogEgress.Text

/-- The upper-case form of a character. -/
def upperChar (c : Char) : List Char :=
  if c.toNat < 128 then [c.toUpper]
  else match UpperCase.expansions.lookup c.toNat with
    | some cs => cs.map Char.ofNat
    | none =>
      match UpperCase.runs.find? fun (first, last, step, _) =>
          first ≤ c.toNat && c.toNat ≤ last && (c.toNat - first) % step == 0 with
      | some (first, _, _, form) => [Char.ofNat (form + (c.toNat - first))]
      | none => [c]

/-- The upper-case form of a text. -/
def upper (s : List Char) : List Char := s.flatMap upperChar

end LogEgress.Text
