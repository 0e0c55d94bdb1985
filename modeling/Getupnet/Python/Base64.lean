import Mathlib.Data.Nat.Notation

namespace python

/-- The digit of a value below 64. -/
def base64Digit (value : Nat) : UInt8 :=
  if value < 26 then UInt8.ofNat (65 + value)
  else if value < 52 then UInt8.ofNat (71 + value)
  else if value < 62 then UInt8.ofNat (value - 4)
  else if value = 62 then 43
  else 47

def base64Pad : UInt8 := 61

/-- Three bytes as four digits; one or two left over are padded. -/
def b64encode : List UInt8 → List UInt8
  | [] => []
  | [a] => [base64Digit (a.toNat / 4), base64Digit (a.toNat % 4 * 16), base64Pad, base64Pad]
  | [a, b] =>
    [base64Digit (a.toNat / 4), base64Digit (a.toNat % 4 * 16 + b.toNat / 16), base64Digit (b.toNat % 16 * 4),
      base64Pad]
  | a :: b :: c :: rest =>
    base64Digit (a.toNat / 4) :: base64Digit (a.toNat % 4 * 16 + b.toNat / 16) ::
      base64Digit (b.toNat % 16 * 4 + c.toNat / 64) :: base64Digit (c.toNat % 64) :: b64encode rest

inductive Base64Error where
  | one_digit
  | incorrect_padding
  deriving DecidableEq

section

variable {value left pads : Nat} {rest : List UInt8}

end

end python
