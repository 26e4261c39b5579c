/-!
# Numerals

Positional numerals in a radix of at most thirty-six. `decimal` writes a natural
number with the fewest digits; `read?` accepts one or more digits of the radix
and nothing else. Reading undoes writing: `read?_decimal`.
-/

namespace Switchboard.Text.Numeral

/-- The value of one character as a digit of `radix`: `0` to `9`, then the
letters of either case from ten upwards. -/
def digit? (radix : Nat) (c : Char) : Option Nat :=
  let value? :=
    if '0' ≤ c ∧ c ≤ '9' then some (c.toNat - '0'.toNat)
    else if 'a' ≤ c ∧ c ≤ 'z' then some (c.toNat - 'a'.toNat + 10)
    else if 'A' ≤ c ∧ c ≤ 'Z' then some (c.toNat - 'A'.toNat + 10)
    else none
  value?.filter (· < radix)

/-- Read digits behind a number already read. -/
def readFrom? (radix start : Nat) : List Char → Option Nat
  | [] => some start
  | c :: rest => do readFrom? radix (radix * start + (← digit? radix c)) rest

/-- Read a numeral: at least one digit, and digits only. -/
def read? (radix : Nat) : List Char → Option Nat
  | [] => none
  | digits => readFrom? radix 0 digits

/-- The decimal digit of a value below ten. -/
def decimalDigit (value : Nat) : Char :=
  Char.ofNat ('0'.toNat + value)

/-- A natural number in decimal digits, without a leading zero. -/
def decimal (n : Nat) : List Char :=
  if n < 10 then [decimalDigit n] else decimal (n / 10) ++ [decimalDigit (n % 10)]

/-- The decimal text of a natural number. -/
def text (n : Nat) : String :=
  String.ofList (decimal n)

theorem digit?_decimalDigit {value : Nat} (small : value < 10) :
    digit? 10 (decimalDigit value) = some value := by
  have all : ∀ v, v < 10 → digit? 10 (decimalDigit v) = some v := by decide
  exact all value small

/-- Digits read in two parts: the second part continues from the first. -/
theorem readFrom?_append (radix start : Nat) (front back : List Char) :
    readFrom? radix start (front ++ back) =
      (readFrom? radix start front).bind (readFrom? radix · back) := by
  induction front generalizing start with
  | nil => rfl
  | cons c rest ih =>
    simp only [List.cons_append, readFrom?]
    cases digit? radix c with
    | none => rfl
    | some value => exact ih _

theorem decimal_ne_nil (n : Nat) : decimal n ≠ [] := by
  unfold decimal
  split <;> simp

theorem readFrom?_decimal (n : Nat) : readFrom? 10 0 (decimal n) = some n := by
  induction n using Nat.strongRecOn with
  | ind n ih =>
    unfold decimal
    split
    · rename_i small
      simp [readFrom?, digit?_decimalDigit small]
    · rename_i large
      rw [readFrom?_append, ih (n / 10) (by omega)]
      have unit : n % 10 < 10 := by omega
      simp only [Option.bind_some, readFrom?, digit?_decimalDigit unit]
      show some (10 * (n / 10) + n % 10) = some n
      congr 1
      omega

/-- The digits written for a number read back as that number. -/
theorem read?_decimal (n : Nat) : read? 10 (decimal n) = some n := by
  cases written : decimal n with
  | nil => exact absurd written (decimal_ne_nil n)
  | cons c rest => rw [read?, ← written, readFrom?_decimal]; simp

end Switchboard.Text.Numeral
