set_option autoImplicit false

/-! # Reading decimal integers

The text of an integer is an optional sign and at least one ASCII digit. A minus sign is allowed
for signed types only. The first character that is wrong, or the first digit that leaves the
type's range, decides the fault.
-/

namespace LogEgress.Text

/-- Why a text is not an integer of a type. -/
inductive IntegerFault where
  /-- There is no text. -/
  | empty
  /-- A character is not a digit, or there is only a sign. -/
  | invalidDigit
  /-- The number is above the type's range. -/
  | tooLarge
  /-- The number is below the type's range. -/
  | tooSmall
  deriving DecidableEq, Repr

/-- The wording of a fault. -/
def IntegerFault.message : IntegerFault → String
  | .empty => "cannot parse integer from empty string"
  | .invalidDigit => "invalid digit found in string"
  | .tooLarge => "number too large to fit in target type"
  | .tooSmall => "number too small to fit in target type"

/-- The value of an ASCII digit. -/
def digit? (c : Char) : Option Nat :=
  if c.isDigit then some (c.toNat - '0'.toNat) else none

/-- Reads digits after a number already read, up to a greatest value. -/
def readDigits (greatest : Nat) (overflow : IntegerFault) :
    Nat → List Char → Except IntegerFault Nat
  | n, [] => .ok n
  | n, c :: s =>
    match digit? c with
    | none => .error .invalidDigit
    | some d =>
      if 10 * n + d ≤ greatest then readDigits greatest overflow (10 * n + d) s
      else .error overflow

/-- Reads a number up to a greatest value. -/
def readNat (greatest : Nat) : List Char → Except IntegerFault Nat
  | [] => .error .empty
  | ['+'] => .error .invalidDigit
  | '+' :: s => readDigits greatest .tooLarge 0 s
  | s => readDigits greatest .tooLarge 0 s

/-- The greatest signed 64-bit number. The least one is one further from zero. -/
def greatestSigned64 : Nat := 9223372036854775807

/-- Reads a signed 64-bit integer. -/
def readInt64 : List Char → Except IntegerFault Int
  | [] => .error .empty
  | ['+'] => .error .invalidDigit
  | ['-'] => .error .invalidDigit
  | '+' :: s => (readDigits greatestSigned64 .tooLarge 0 s).map Int.ofNat
  | '-' :: s => (readDigits (greatestSigned64 + 1) .tooSmall 0 s).map fun n => -(n : Int)
  | s => (readDigits greatestSigned64 .tooLarge 0 s).map Int.ofNat

/-- The greatest unsigned 64-bit number. -/
def greatest64 : Nat := 18446744073709551615

/-- The greatest unsigned 32-bit number. -/
def greatest32 : Nat := 4294967295

/-- The greatest unsigned 16-bit number. -/
def greatest16 : Nat := 65535

end LogEgress.Text
