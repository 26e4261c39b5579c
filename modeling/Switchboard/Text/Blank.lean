/-!
# Blank characters

The characters with the Unicode property White_Space, and the text without those
at its ends. What is left out at either end are blanks only, and what is left
neither begins nor ends with one, so there is no other way to leave them out
(`trimmed_eq_iff`).
-/

namespace Switchboard.Text

/-- The code points with the property White_Space, as ranges with both ends
included: twenty-five in all. -/
def blankRanges : List (Nat × Nat) :=
  [(0x0009, 0x000D), (0x0020, 0x0020), (0x0085, 0x0085), (0x00A0, 0x00A0),
   (0x1680, 0x1680), (0x2000, 0x200A), (0x2028, 0x2029), (0x202F, 0x202F),
   (0x205F, 0x205F), (0x3000, 0x3000)]

/-- Whether a character is white space. -/
def isBlank (c : Char) : Bool :=
  blankRanges.any fun range => range.1 ≤ c.toNat && c.toNat ≤ range.2

/-- Leave out the blanks before the first and after the last other character. -/
def trimmed (text : List Char) : List Char :=
  (((text.dropWhile isBlank).reverse).dropWhile isBlank).reverse

/-- `Stripped text core`: a text is `core` with blanks around it, and `core` neither
begins nor ends with a blank. -/
structure Stripped (text core : List Char) : Prop where
  around : ∃ front back, text = front ++ core ++ back ∧
    (∀ c ∈ front, isBlank c = true) ∧ ∀ c ∈ back, isBlank c = true
  first : ∀ c ∈ core.head?, isBlank c = false
  last : ∀ c ∈ core.getLast?, isBlank c = false

/-- What is left of a text without the blanks before its first other character does not begin with
a blank. -/
theorem head?_dropWhile_isBlank (text : List Char) :
    ∀ c ∈ (text.dropWhile isBlank).head?, isBlank c = false := by
  intro c first
  have other := List.head?_dropWhile_not isBlank text
  rw [Option.mem_def.mp first] at other
  exact other

/-- Blanks before a text are left out if it does not begin with another one. -/
theorem dropWhile_isBlank_append {front text : List Char} (blank : ∀ c ∈ front, isBlank c = true)
    (first : ∀ c ∈ text.head?, isBlank c = false) :
    (front ++ text).dropWhile isBlank = text := by
  rw [List.dropWhile_append_of_pos blank]
  cases text with
  | nil => rfl
  | cons c rest =>
    have other : isBlank c = false := first c rfl
    exact List.dropWhile_cons_of_neg (by simp [other])

/-- Only blanks are left out, and no more are left at the ends. -/
theorem stripped_trimmed (text : List Char) : Stripped text (trimmed text) := by
  have blank : ∀ l : List Char, ∀ c ∈ l.takeWhile isBlank, isBlank c = true :=
    fun l c member => List.all_eq_true.mp List.all_takeWhile c member
  have behind : trimmed text ++ ((text.dropWhile isBlank).reverse.takeWhile isBlank).reverse =
      text.dropWhile isBlank := by
    rw [trimmed, ← List.reverse_append, List.takeWhile_append_dropWhile, List.reverse_reverse]
  constructor
  · refine ⟨text.takeWhile isBlank, ((text.dropWhile isBlank).reverse.takeWhile isBlank).reverse,
      ?_, blank text, ?_⟩
    · rw [List.append_assoc, behind, List.takeWhile_append_dropWhile]
    · intro c member
      exact blank _ c (List.mem_reverse.mp member)
  · -- What comes first is still what comes first behind the blanks before it.
    intro c first
    apply head?_dropWhile_isBlank text c
    rw [← behind, List.head?_append, Option.mem_def.mp first]
    rfl
  · intro c last
    rw [trimmed, List.getLast?_reverse] at last
    exact head?_dropWhile_isBlank _ c last

/-- A text can be stripped in one way only. -/
theorem trimmed_eq_iff {text core : List Char} : trimmed text = core ↔ Stripped text core := by
  constructor
  · rintro rfl
    exact stripped_trimmed text
  · rintro ⟨⟨front, back, rfl, before, behind⟩, first, last⟩
    cases core with
    | nil =>
      have blank : ∀ c ∈ front ++ back, isBlank c = true :=
        fun c member => (List.mem_append.mp member).elim (before c) (behind c)
      have nothing : (front ++ back ++ []).dropWhile isBlank = [] :=
        dropWhile_isBlank_append blank nofun
      rw [List.append_nil] at nothing ⊢
      rw [trimmed, nothing]
      rfl
    | cons c rest =>
      have front : (front ++ (c :: rest) ++ back).dropWhile isBlank = c :: rest ++ back := by
        rw [List.append_assoc]
        exact dropWhile_isBlank_append before first
      rw [trimmed, front, List.reverse_append, dropWhile_isBlank_append, List.reverse_reverse]
      · exact fun c member => behind c (List.mem_reverse.mp member)
      · rwa [List.head?_reverse]

end Switchboard.Text
