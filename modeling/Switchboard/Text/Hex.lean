/-!
# Hexadecimal text

Bytes as pairs of hexadecimal digits, the high half first. Writing uses the
lower-case digits; reading takes digits of either case and refuses an odd number
of them. Reading undoes writing (`decode?_encode`), takes nothing but what is
written, in whichever case (`decode?_eq_some_iff`), and takes all pairs of digits
(`exists_decode?`).
-/

namespace Switchboard.Text.Hex

/-- The lower-case digit of a value below sixteen. -/
def digit (value : Nat) : Char :=
  if value < 10 then Char.ofNat ('0'.toNat + value) else Char.ofNat ('a'.toNat + (value - 10))

/-- The value of a hexadecimal digit of either case. -/
def value? (c : Char) : Option Nat :=
  if '0' ≤ c ∧ c ≤ '9' then some (c.toNat - '0'.toNat)
  else if 'a' ≤ c ∧ c ≤ 'f' then some (c.toNat - 'a'.toNat + 10)
  else if 'A' ≤ c ∧ c ≤ 'F' then some (c.toNat - 'A'.toNat + 10)
  else none

/-- Whether a character is a hexadecimal digit of either case. -/
def isDigit (c : Char) : Bool :=
  (value? c).isSome

/-- Write bytes, two digits for each. -/
def encode : List UInt8 → List Char
  | [] => []
  | byte :: rest => digit (byte.toNat / 16) :: digit (byte.toNat % 16) :: encode rest

/-- Read pairs of digits as bytes. -/
def decode? : List Char → Option (List UInt8)
  | [] => some []
  | [_] => none
  | high :: low :: rest => do
    let byte := 16 * (← value? high) + (← value? low)
    return UInt8.ofNat byte :: (← decode? rest)

theorem value?_digit {value : Nat} (small : value < 16) : value? (digit value) = some value := by
  have all : ∀ v, v < 16 → value? (digit v) = some v := by decide
  exact all value small

@[simp] theorem length_encode (bytes : List UInt8) : (encode bytes).length = 2 * bytes.length := by
  induction bytes with
  | nil => rfl
  | cons byte rest ih => simp only [encode, List.length_cons, ih]; omega

/-- The digits written for some bytes read back as those bytes. -/
theorem decode?_encode (bytes : List UInt8) : decode? (encode bytes) = some bytes := by
  induction bytes with
  | nil => rfl
  | cons byte rest ih =>
    have bound : byte.toNat < 256 := byte.toNat_lt
    have high : byte.toNat / 16 < 16 := by omega
    have low : byte.toNat % 16 < 16 := by omega
    have halves : 16 * (byte.toNat / 16) + byte.toNat % 16 = byte.toNat := by omega
    simp only [encode, decode?, value?_digit high, value?_digit low, ih, halves,
      Option.bind_eq_bind, Option.bind_some, UInt8.ofNat_toNat, Option.pure_def]

/-- What holds of the first characters one by one holds of each of them. -/
theorem forall_ascii {P : Char → Prop} (all : ∀ n < 128, P (Char.ofNat n)) {c : Char}
    (ascii : c.toNat < 128) : P c := by
  have here := all c.toNat ascii
  rwa [Char.ofNat_toNat] at here

/-- A character with a value is an ASCII character. -/
theorem toNat_lt_of_isDigit {c : Char} (isDigit : isDigit c = true) : c.toNat < 128 := by
  have bound : ∀ {d : Char}, c ≤ d → c.toNat ≤ d.toNat := fun le => le
  have ends : '9'.toNat < 128 ∧ 'f'.toNat < 128 ∧ 'F'.toNat < 128 := by decide
  unfold Hex.isDigit value? at isDigit
  split at isDigit
  · rename_i range
    exact Nat.lt_of_le_of_lt (bound range.2) ends.1
  · split at isDigit
    · rename_i range
      exact Nat.lt_of_le_of_lt (bound range.2) ends.2.1
    · split at isDigit
      · rename_i range
        exact Nat.lt_of_le_of_lt (bound range.2) ends.2.2
      · cases isDigit

/-- The value of a digit is below sixteen, and its digit is the same in lower case. -/
theorem digit_of_value? {c : Char} {value : Nat} (read : value? c = some value) :
    value < 16 ∧ digit value = c.toLower := by
  have ascii : c.toNat < 128 := toNat_lt_of_isDigit (by rw [isDigit, read]; rfl)
  have all : ∀ v ∈ value? c, v < 16 ∧ digit v = c.toLower :=
    forall_ascii (P := fun c => ∀ v ∈ value? c, v < 16 ∧ digit v = c.toLower) (by decide) ascii
  exact all value read

/-- The case of a digit does not matter. -/
theorem value?_toLower (c : Char) : value? c.toLower = value? c := by
  by_cases upper : 'A'.val ≤ c.val ∧ c.val ≤ 'Z'.val
  · have last : c.toNat ≤ 'Z'.toNat := upper.2
    exact forall_ascii (P := fun c => value? c.toLower = value? c) (by decide)
      (Nat.lt_of_le_of_lt last (by decide))
  · have same : c.toLower = c := dif_neg upper
    rw [same]

/-- The case of digits does not matter. -/
theorem decode?_toLower (digits : List Char) :
    decode? (digits.map Char.toLower) = decode? digits := by
  fun_induction decode? digits with
  | case1 => rfl
  | case2 => rfl
  | case3 high low rest ih =>
    rw [List.map_cons, List.map_cons, decode?, value?_toLower, value?_toLower, ih]

/-- Digits that read as some bytes are, in lower case, the digits of these bytes. -/
theorem encode_of_decode? {digits : List Char} {bytes : List UInt8}
    (read : decode? digits = some bytes) : digits.map Char.toLower = encode bytes := by
  fun_induction decode? digits generalizing bytes with
  | case1 =>
    cases read
    rfl
  | case2 => cases read
  | case3 high low rest ih =>
    simp only [Option.bind_eq_bind, Option.bind_eq_some_iff, Option.pure_def,
      Option.some.injEq] at read
    obtain ⟨upper, first, lower, second, tail, later, rfl⟩ := read
    obtain ⟨smallUpper, digitUpper⟩ := digit_of_value? first
    obtain ⟨smallLower, digitLower⟩ := digit_of_value? second
    have whole : (UInt8.ofNat (16 * upper + lower)).toNat = 16 * upper + lower := by
      rw [UInt8.toNat_ofNat']
      omega
    have halves : (16 * upper + lower) / 16 = upper ∧ (16 * upper + lower) % 16 = lower := by
      omega
    rw [List.map_cons, List.map_cons, encode, whole, halves.1, halves.2, digitUpper, digitLower,
      ih later]

/-- Digits read as some bytes exactly if, in lower case, they are the digits of these bytes. -/
theorem decode?_eq_some_iff {digits : List Char} {bytes : List UInt8} :
    decode? digits = some bytes ↔ digits.map Char.toLower = encode bytes := by
  constructor
  · exact encode_of_decode?
  · intro same
    rw [← decode?_toLower, same, decode?_encode]

/-- Digits that read as bytes are two for each byte, and nothing else. -/
theorem digits_of_decode? {digits : List Char} {bytes : List UInt8}
    (read : decode? digits = some bytes) :
    digits.length = 2 * bytes.length ∧ ∀ c ∈ digits, isDigit c = true := by
  constructor
  · rw [← length_encode, ← decode?_eq_some_iff.mp read, List.length_map]
  · fun_induction decode? digits generalizing bytes with
    | case1 => nofun
    | case2 => cases read
    | case3 high low rest ih =>
      simp only [Option.bind_eq_bind, Option.bind_eq_some_iff] at read
      obtain ⟨upper, first, lower, second, tail, later, -⟩ := read
      intro c member
      rcases List.mem_cons.mp member with rfl | member
      · rw [isDigit, first]
        rfl
      · rcases List.mem_cons.mp member with rfl | member
        · rw [isDigit, second]
          rfl
        · exact ih later c member

/-- An even number of digits reads as bytes. -/
theorem exists_decode? {digits : List Char} (even : digits.length % 2 = 0)
    (all : ∀ c ∈ digits, isDigit c = true) : ∃ bytes, decode? digits = some bytes := by
  fun_induction decode? digits with
  | case1 => exact ⟨[], rfl⟩
  | case2 c =>
    rw [List.length_singleton] at even
    omega
  | case3 high low rest ih =>
    rw [List.length_cons, List.length_cons] at even
    obtain ⟨upper, first⟩ := Option.isSome_iff_exists.mp (all high List.mem_cons_self)
    obtain ⟨lower, second⟩ :=
      Option.isSome_iff_exists.mp (all low (List.mem_cons_of_mem _ List.mem_cons_self))
    obtain ⟨tail, later⟩ := ih (by omega) fun c member =>
      all c (List.mem_cons_of_mem _ (List.mem_cons_of_mem _ member))
    rw [first, second, later]
    exact ⟨_, rfl⟩

end Switchboard.Text.Hex
