import Getupnet.Python.Value

namespace python

/-- `str(value)`. The texts of lists and dictionaries are given. -/
def str (repr : Value → String) : Value → String
  | .none => "None"
  | .bool true => "True"
  | .bool false => "False"
  | .int value => toString value
  | .str text => text
  | .list items => repr (.list items)
  | .dict entries => repr (.dict entries)
  | .other _ text => text

/-- The number that decimal digits spell. -/
def spelled (digits : List Char) : Option Nat :=
  if !digits.isEmpty && digits.all Char.isDigit then some (Nat.ofDigitChars 10 digits 0) else none

theorem spelled_of_isDigit {digits : List Char} (hne : digits ≠ []) (h : ∀ digit ∈ digits, digit.isDigit) :
    spelled digits = some (Nat.ofDigitChars 10 digits 0) := by
  rw [spelled, if_pos]
  rw [Bool.and_eq_true, Bool.not_eq_true', List.isEmpty_eq_false_iff, List.all_eq_true]
  exact ⟨hne, h⟩

/-- Only digits spell a number, at least one of them. -/
theorem spelled_eq_some {digits : List Char} {number : Nat} (h : spelled digits = some number) :
    digits ≠ [] ∧ ∀ digit ∈ digits, digit.isDigit := by
  rw [spelled] at h
  split at h
  · rename_i hdigits
    rwa [Bool.and_eq_true, Bool.not_eq_true', List.isEmpty_eq_false_iff, List.all_eq_true] at hdigits
  · cases h

/-- `int(word)` for digits, with a sign or without; `none` for any other word. -/
def decimal (word : String) : Option Int :=
  match word.toList with
  | '-' :: digits => (spelled digits).map fun number : Nat => -(number : Int)
  | digits => (spelled digits).map fun number : Nat => (number : Int)

theorem spelled_toDigits (number : Nat) : spelled (Nat.toDigits 10 number) = some number := by
  rw [spelled_of_isDigit Nat.toDigits_ne_nil, Nat.ofDigitChars_ten_toDigits]
  exact fun digit hdigit => Nat.isDigit_of_mem_toDigits (by decide) (by decide) hdigit

/-- The first digit of a number is `0` for zero alone. -/
theorem toDigits_head {number : Nat} (h : 0 < number) :
    ∃ digit digits, Nat.toDigits 10 number = digit :: digits ∧ digit ≠ '0' := by
  induction number using Nat.strongRecOn with
  | _ number ih =>
    by_cases hsmall : number < 10
    · refine ⟨number.digitChar, [], Nat.toDigits_of_lt_base hsmall, ?_⟩
      have hall : ∀ digit < 10, 0 < digit → digit.digitChar ≠ '0' := by decide
      exact hall number hsmall h
    · obtain ⟨digit, digits, hdigits, hzero⟩ := ih (number / 10) (by omega) (by omega)
      refine ⟨digit, digits ++ [(number % 10).digitChar], ?_, hzero⟩
      rw [Nat.toDigits_of_base_le (by omega) (by omega), hdigits, List.cons_append]

theorem decimal_minus {word : String} {digits : List Char} (h : word.toList = '-' :: digits) :
    decimal word = (spelled digits).map fun number : Nat => -(number : Int) := by
  rw [decimal, h]
  rfl

theorem decimal_of_isDigit {word : String} (h : ∀ digit ∈ word.toList, digit.isDigit) :
    decimal word = (spelled word.toList).map fun number : Nat => (number : Int) := by
  rw [decimal]
  split
  · rename_i digits hdigits
    have hminus := h '-' (by rw [hdigits]; exact List.mem_cons_self)
    cases hminus
  · rfl

theorem not_isAlpha_of_isDigit {digit : Char} (h : digit.isDigit = true) : digit.isAlpha = false := by
  have hnine : digit.val ≤ '9'.val := of_decide_eq_true ((Bool.and_eq_true_iff.mp h).2)
  have hupper : digit.isUpper = false :=
    decide_eq_false fun hletter => absurd (UInt32.le_trans hletter.1 hnine) (by decide)
  have hlower : digit.isLower = false :=
    Bool.and_eq_false_imp.mpr fun hletter =>
      absurd (UInt32.le_trans (of_decide_eq_true hletter) hnine) (by decide)
  exact Bool.or_eq_false_iff.mpr ⟨hupper, hlower⟩

/-- A decimal word is not made of letters alone. -/
theorem exists_not_isAlpha_of_decimal {word : String} {number : Int} (h : decimal word = some number) :
    ∃ char ∈ word.toList, char.isAlpha = false := by
  rw [decimal] at h
  split at h
  · rename_i digits hword
    exact ⟨'-', hword ▸ List.mem_cons_self, rfl⟩
  · obtain ⟨magnitude, hmagnitude, -⟩ := Option.map_eq_some_iff.mp h
    obtain ⟨hne, hdigits⟩ := spelled_eq_some hmagnitude
    obtain ⟨digit, hdigit⟩ := List.exists_mem_of_ne_nil word.toList hne
    exact ⟨digit, hdigit, not_isAlpha_of_isDigit (hdigits digit hdigit)⟩

theorem toString_ofNat (number : Nat) : (toString (Int.ofNat number)).toList = Nat.toDigits 10 number :=
  Nat.toList_repr

theorem toString_negSucc (number : Nat) :
    (toString (Int.negSucc number)).toList = '-' :: Nat.toDigits 10 (number + 1) := by
  have htext : toString (Int.negSucc number) = "-" ++ (number + 1).repr := rfl
  rw [htext, String.toList_append, Nat.toList_repr]
  rfl

/-- A number is read back from its text. -/
theorem decimal_toString (number : Int) : decimal (toString number) = some number := by
  cases number with
  | ofNat number =>
    have hword := toString_ofNat number
    rw [decimal_of_isDigit, hword, spelled_toDigits]
    · rfl
    · intro digit hdigit
      rw [hword] at hdigit
      exact Nat.isDigit_of_mem_toDigits (by decide) (by decide) hdigit
  | negSucc number =>
    rw [decimal_minus (toString_negSucc number), spelled_toDigits]
    rfl

end python
