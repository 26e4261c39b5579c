import Mathlib.Data.List.Forall2
import Switchboard.Json.Value
import Switchboard.Json.Writing

/-!
# Written JSON is read as it was meant

A text denotes a value if it is read as this value wherever a value may stand (`Denotes`), so that
it also is this value if it stands alone (`Denotes.read?`).

* **strings** — each character is written so that it is read as one piece, which spells it
  (`Cursor.exists_piece`), and a text so that it is read as one string (`denotes_string`);
* **numbers** — the digits of a number are read as one number, if what follows does not go on with
  them (`denotes_natural`, `Apart`);
* **objects** — an object denotes the fields that were written, in their order, if their values
  denote theirs (`denotes_object`).
-/

namespace Switchboard.Json

open Text

variable {cursor next : Cursor} {c : Char}

/-! ## One character at a time -/

/-- A character is read, with the tokens that it completes. -/
theorem Cursor.tokens?_of_advance {done : List Token}
    (step : cursor.advance c = some (next, done)) (rest : List Char) :
    cursor.tokens? (c :: rest) = (next.tokens? rest).map (done ++ ·) := by
  rw [tokens?, step, Option.map_eq_bind]
  rfl

/-- A character that completes no token is read. -/
theorem Cursor.tokens?_of_silent (step : cursor.advance c = some (next, []))
    (rest : List Char) : cursor.tokens? (c :: rest) = next.tokens? rest := by
  rw [tokens?_of_advance step]
  exact Option.map_id'

/-! ## Strings -/

theorem spell?_char (c : Char) (pieces : List Piece) :
    spell? (.char c :: pieces) = (spell? pieces).map (c :: ·) := by
  rw [spell?, Option.map_eq_bind]
  rfl

/-- A code unit that is no surrogate spells one character. -/
theorem spell?_unit {value : Nat} (plain : value < 0xD800) (pieces : List Piece) :
    spell? (.unit value :: pieces) = (spell? pieces).map (Char.ofNat value :: ·) := by
  have low : ¬ 0xD800 ≤ value := by omega
  have high : ¬ 0xDC00 ≤ value := by omega
  rw [Option.map_eq_bind]
  -- What comes next is looked at only behind a surrogate.
  cases pieces with
  | nil =>
      simp only [spell?, low, false_and, if_false]
      rfl
  | cons piece pieces =>
      cases piece with
      | char c =>
          simp only [spell?, low, false_and, if_false]
          rfl
      | unit second =>
          rw [spell?, if_neg (fun half => low half.1), if_neg (fun half => high half.1)]
          rfl

/-- A letter behind a backslash is read as the character that it stands for. -/
theorem Cursor.tokens?_letter {letter plain : Char} (other : letter ≠ 'u')
    (stands : escaped? letter = some plain) (read : List Piece) (rest : List Char) :
    (Cursor.string read).tokens? (['\\', letter] ++ rest) =
      (Cursor.string (.char plain :: read)).tokens? rest := by
  have ends : (Cursor.escape read).advance letter = some (.string (.char plain :: read), []) := by
    rw [advance, if_neg other, stands]
    rfl
  calc (Cursor.string read).tokens? ('\\' :: letter :: rest)
      = (Cursor.escape read).tokens? (letter :: rest) := tokens?_of_silent rfl _
    _ = (Cursor.string (.char plain :: read)).tokens? rest := tokens?_of_silent ends rest

theorem Cursor.advance_unicode {digits value digit : Nat} (small : digit < 16)
    (read : List Piece) :
    (Cursor.unicode digits value read).advance (Hex.digit digit) =
      some (if digits = 3 then (.string (.unit (16 * value + digit) :: read), [])
        else (.unicode (digits + 1) (16 * value + digit) read, [])) := by
  rw [advance, Hex.value?_digit small]
  rfl

/-- Four hexadecimal digits behind a backslash and `u` are read as a code unit. -/
theorem Cursor.tokens?_unit {value : Nat} (small : value < 256) (read : List Piece)
    (rest : List Char) :
    (Cursor.string read).tokens?
        (['\\', 'u', '0', '0', Hex.digit (value / 16), Hex.digit (value % 16)] ++ rest) =
      (Cursor.string (.unit value :: read)).tokens? rest := by
  have upper := @advance_unicode 2 0 (value / 16) (by omega) read
  have lower := @advance_unicode 3 (16 * 0 + value / 16) (value % 16) (by omega) read
  have whole : 16 * (16 * 0 + value / 16) + value % 16 = value := by omega
  rw [whole] at lower
  calc (Cursor.string read).tokens? ('\\' :: 'u' :: '0' :: '0' :: _)
      = (Cursor.escape read).tokens? ('u' :: '0' :: '0' :: _) := tokens?_of_silent rfl _
    _ = (Cursor.unicode 0 0 read).tokens? ('0' :: '0' :: _) := tokens?_of_silent rfl _
    _ = (Cursor.unicode 1 0 read).tokens? ('0' :: _) := tokens?_of_silent rfl _
    _ = (Cursor.unicode 2 0 read).tokens? (Hex.digit (value / 16) :: _) := tokens?_of_silent rfl _
    _ = (Cursor.unicode 3 _ read).tokens? (Hex.digit (value % 16) :: _) := tokens?_of_silent upper _
    _ = (Cursor.string (.unit value :: read)).tokens? rest := tokens?_of_silent lower rest

/-- Each character is written so that it is read as one piece, which spells it. -/
theorem Cursor.exists_piece (c : Char) : ∃ piece,
    (∀ read rest, (Cursor.string read).tokens? (Writing.character c ++ rest) =
      (Cursor.string (piece :: read)).tokens? rest) ∧
    ∀ pieces, spell? (piece :: pieces) = (spell? pieces).map (c :: ·) := by
  unfold Writing.character
  split
  -- Seven characters have a letter of their own behind a backslash.
  · exact ⟨.char '"', tokens?_letter (by decide) rfl, spell?_char _⟩
  · exact ⟨.char '\\', tokens?_letter (by decide) rfl, spell?_char _⟩
  · exact ⟨.char '\x08', tokens?_letter (by decide) rfl, spell?_char _⟩
  · exact ⟨.char '\x0c', tokens?_letter (by decide) rfl, spell?_char _⟩
  · exact ⟨.char '\n', tokens?_letter (by decide) rfl, spell?_char _⟩
  · exact ⟨.char '\r', tokens?_letter (by decide) rfl, spell?_char _⟩
  · exact ⟨.char '\t', tokens?_letter (by decide) rfl, spell?_char _⟩
  · rename_i quote backslash _ _ _ _ _
    split
    · -- Any other control character is written by its number.
      rename_i control
      have same : Char.ofNat c.toNat = c := Char.ofNat_toNat c
      refine ⟨.unit c.toNat, tokens?_unit (by omega), ?_⟩
      intro pieces
      rw [spell?_unit (by omega), same]
    · rename_i printed
      refine ⟨.char c, ?_, spell?_char c⟩
      intro read rest
      apply tokens?_of_silent
      rw [advance, if_neg quote, if_neg backslash, if_neg printed]

theorem Cursor.exists_pieces (cs : List Char) : ∃ pieces, spell? pieces = some cs ∧
    ∀ read rest, (Cursor.string read).tokens? (cs.flatMap Writing.character ++ rest) =
      (Cursor.string (pieces.reverse ++ read)).tokens? rest := by
  induction cs with
  | nil => exact ⟨[], rfl, fun read rest => rfl⟩
  | cons c cs ih =>
      obtain ⟨piece, read_piece, spells_piece⟩ := exists_piece c
      obtain ⟨pieces, spells, read_pieces⟩ := ih
      refine ⟨piece :: pieces, ?_, ?_⟩
      · rw [spells_piece, spells]
        rfl
      · intro read rest
        rw [List.flatMap_cons, List.append_assoc, read_piece, read_pieces, List.reverse_cons,
          List.append_assoc]
        rfl

/-- A text is written so that it is read as one string, which spells it. -/
theorem Cursor.tokens?_string (s : String) (rest : List Char) :
    Cursor.between.tokens? (Writing.string s ++ rest) =
      (Cursor.between.tokens? rest).map (.string (some s) :: ·) := by
  obtain ⟨pieces, spells, read_pieces⟩ := exists_pieces s.toList
  have ends : (Cursor.string pieces.reverse).advance '"' =
      some (.between, [.string (some s)]) := by
    rw [advance, if_pos rfl, List.reverse_reverse, spells, Option.map_some, String.ofList_toList]
  calc Cursor.between.tokens? ('"' :: (_ ++ ['"']) ++ rest)
      = Cursor.between.tokens? ('"' :: (s.toList.flatMap Writing.character ++ '"' :: rest)) := by
        rw [List.cons_append, List.append_assoc, List.singleton_append]
    _ = (Cursor.string []).tokens? (s.toList.flatMap Writing.character ++ '"' :: rest) :=
        tokens?_of_silent rfl _
    _ = (Cursor.string pieces.reverse).tokens? ('"' :: rest) := by
        rw [read_pieces, List.append_nil]
    _ = (Cursor.between.tokens? rest).map (.string (some s) :: ·) := tokens?_of_advance ends rest

/-! ## Numbers -/

/-- Whether a number stays as it is if a text follows: what follows does not go on with it. -/
def Apart (rest : List Char) : Prop :=
  ∀ c ∈ rest.head?, NumberPart.zero.next? c = none ∧ NumberPart.whole.next? c = none

/-- The part of a number in which its last digit stands, if it has no fraction and no exponent. -/
def NumberPart.last (n : Nat) : NumberPart :=
  if n = 0 then .zero else .whole

/-- What follows ends a number if it does not go on with it. -/
theorem Cursor.tokens?_ended {part : NumberPart} {rest : List Char}
    (ended : ∀ c ∈ rest.head?, part.next? c = none) (complete : part.complete = true)
    (read : List Char) :
    (Cursor.number part read).tokens? rest =
      (Cursor.between.tokens? rest).map (.number read.reverse :: ·) := by
  cases rest with
  | nil => simp [tokens?, finish?, complete]
  | cons c rest =>
      have ends : (number part read).advance c =
          (start c).map fun next => (next.1, .number read.reverse :: next.2) := by
        rw [advance, ended c rfl]
        exact if_pos complete
      have anew : between.advance c = start c := rfl
      cases begun : start c with
      | none =>
          rw [begun] at ends anew
          rw [tokens?, tokens?, ends, anew]
          rfl
      | some next =>
          rw [begun] at ends anew
          rw [tokens?_of_advance ends, tokens?_of_advance anew, Option.map_map]
          rfl

/-- The digits of a number are read as one number. -/
theorem Cursor.tokens?_decimal (n : Nat) (rest : List Char) :
    Cursor.between.tokens? (Numeral.decimal n ++ rest) =
      (Cursor.number (.last n) (Numeral.decimal n).reverse).tokens? rest := by
  induction n using Nat.strongRecOn generalizing rest with
  | ind n ih =>
      rw [Numeral.decimal]
      split
      · rename_i small
        have first : ∀ v < 10, Cursor.between.advance (Numeral.decimalDigit v) =
            some (.number (.last v) [Numeral.decimalDigit v], []) := by decide
        exact tokens?_of_silent (first n small) rest
      · rename_i large
        have further : ∀ v < 10, NumberPart.whole.next? (Numeral.decimalDigit v) = some .whole := by
          decide
        -- The digits before the last one are those of a number that is not zero.
        have more : NumberPart.last (n / 10) = .whole := if_neg (by omega)
        have whole : NumberPart.last n = .whole := if_neg (by omega)
        rw [List.append_assoc, ih (n / 10) (by omega), more, whole, List.reverse_append]
        apply tokens?_of_silent
        rw [advance, further (n % 10) (by omega)]
        rfl

theorem Apart.tokens?_decimal {rest : List Char} (apart : Apart rest) (n : Nat) :
    Cursor.between.tokens? (Numeral.decimal n ++ rest) =
      (Cursor.between.tokens? rest).map (.number (Numeral.decimal n) :: ·) := by
  rw [Cursor.tokens?_decimal]
  by_cases none : n = 0
  · have last : NumberPart.last n = .zero := if_pos none
    rw [last, Cursor.tokens?_ended (fun c first => (apart c first).1) rfl, List.reverse_reverse]
  · have last : NumberPart.last n = .whole := if_neg none
    rw [last, Cursor.tokens?_ended (fun c first => (apart c first).2) rfl, List.reverse_reverse]

/-! ## Values -/

/-- Take in the tokens of a text. -/
def Progress.readOn? (progress : Progress) (text : List Char) : Option Progress :=
  (Cursor.between.tokens? text).bind progress.run?

/-- A text that begins with a token is read by taking in the token. -/
theorem Progress.readOn?_of_next {progress after : Progress} {token : Token} {text rest : List Char}
    (read : Cursor.between.tokens? text = (Cursor.between.tokens? rest).map (token :: ·))
    (next : progress.next? token = some after) : progress.readOn? text = after.readOn? rest := by
  have taken : ∀ tokens, progress.run? (token :: tokens) = after.run? tokens := by
    intro tokens
    rw [run?, next]
    rfl
  rw [readOn?, readOn?, read, Option.bind_map]
  exact Option.bind_congr fun tokens _ => taken tokens

/-- A mark is a token by itself. -/
theorem Progress.readOn?_mark {progress after : Progress} {token : Token}
    (mark : Cursor.between.advance c = some (.between, [token]))
    (next : progress.next? token = some after) (rest : List Char) :
    progress.readOn? (c :: rest) = after.readOn? rest :=
  readOn?_of_next (Cursor.tokens?_of_advance mark rest) next

/-- A text that is read as a value wherever one may stand. -/
def Denotes (text : List Char) (value : Value) : Prop :=
  ∀ stack rest, Apart rest →
    (Progress.needValue stack).readOn? (text ++ rest) = (Progress.close stack value).readOn? rest

/-- A text that denotes a value is read as this value. -/
theorem Denotes.read? {text : List Char} {value : Value} (denotes : Denotes text value) :
    Value.read? text = some value := by
  have whole := denotes [] [] nofun
  rw [List.append_nil] at whole
  show ((Cursor.between.tokens? text).bind fun tokens =>
    ((Progress.needValue []).run? tokens).bind Progress.result?) = some value
  rw [← Option.bind_assoc]
  show ((Progress.needValue []).readOn? text).bind _ = _
  rw [whole]
  rfl

theorem denotes_string (s : String) : Denotes (Writing.string s) (.string (some s)) := by
  intro stack rest _
  exact Progress.readOn?_of_next (Cursor.tokens?_string s rest) rfl

theorem denotes_natural (n : Nat) :
    Denotes (Writing.natural n) (.number (Numeral.decimal n)) := by
  intro stack rest apart
  exact Progress.readOn?_of_next (apart.tokens?_decimal n) rfl

/-- A key with a value behind it is read as a field wherever a key may stand. -/
theorem Denotes.field {text : List Char} {value : Value} (denotes : Denotes text value)
    {progress : Progress} {done : List (Option String × Value)} {key : String} {stack : List Slot}
    (takes : progress.next? (.string (some key)) = some (.afterKey done (some key) stack))
    {rest : List Char} (apart : Apart rest) :
    progress.readOn? (Writing.string key ++ ':' :: (text ++ rest)) =
      (Progress.afterField ((some key, value) :: done) stack).readOn? rest := by
  calc progress.readOn? (Writing.string key ++ ':' :: (text ++ rest))
      = (Progress.afterKey done (some key) stack).readOn? (':' :: (text ++ rest)) :=
        Progress.readOn?_of_next (Cursor.tokens?_string key _) takes
    _ = (Progress.needValue (.field done (some key) :: stack)).readOn? (text ++ rest) :=
        Progress.readOn?_mark rfl rfl _
    _ = (Progress.afterField ((some key, value) :: done) stack).readOn? rest :=
        denotes _ rest apart

/-- A field is written under its key. -/
def FieldOf (written : String × List Char) (field : Option String × Value) : Prop :=
  field.1 = some written.1 ∧ Denotes written.2 field.2

/-- A field is left out if there is nothing to write. -/
theorem forall₂_optional {α : Type} {text : α → String × List Char}
    {field : α → Option String × Value} (each : ∀ a, FieldOf (text a) (field a)) (o : Option α) :
    List.Forall₂ FieldOf (o.map text).toList (o.map field).toList := by
  cases o with
  | none => exact .nil
  | some a => exact .cons (each a) .nil

theorem apart_furtherFields (fields : List (String × List Char)) (rest : List Char) :
    Apart (Writing.furtherFields fields ++ rest) := by
  intro c first
  cases fields with
  | nil =>
      obtain rfl : '}' = c := Option.some.inj first
      exact ⟨rfl, rfl⟩
  | cons field fields =>
      obtain rfl : ',' = c := Option.some.inj first
      exact ⟨rfl, rfl⟩

/-- Behind a field, the further ones are read up to the end of the object. -/
theorem readOn?_furtherFields {written : List (String × List Char)}
    {fields : List (Option String × Value)} (each : List.Forall₂ FieldOf written fields)
    (done : List (Option String × Value)) (stack : List Slot) (rest : List Char) :
    (Progress.afterField done stack).readOn? (Writing.furtherFields written ++ rest) =
      (Progress.close stack (.object (done.reverse ++ fields))).readOn? rest := by
  -- The fields that have been read wait in reverse, so each step moves one from the text to them.
  induction each generalizing done with
  | nil =>
      rw [List.append_nil]
      exact Progress.readOn?_mark rfl rfl rest
  | @cons first field written fields same _ ih =>
      obtain ⟨key, text⟩ := first
      obtain ⟨_, value⟩ := field
      obtain ⟨rfl, denotes⟩ := same
      calc (Progress.afterField done stack).readOn?
            (Writing.furtherFields ((key, text) :: written) ++ rest)
          = (Progress.afterField done stack).readOn? (',' :: (Writing.string key ++
              ':' :: (text ++ (Writing.furtherFields written ++ rest)))) := by
            simp only [Writing.furtherFields, List.cons_append, List.append_assoc]
        _ = (Progress.needKey done stack).readOn? _ := Progress.readOn?_mark rfl rfl _
        _ = (Progress.afterField ((some key, value) :: done) stack).readOn?
              (Writing.furtherFields written ++ rest) :=
            denotes.field rfl (apart_furtherFields written rest)
        _ = (Progress.close stack (.object (done.reverse ++ (some key, value) :: fields))).readOn?
              rest := by
            rw [ih, List.reverse_cons, List.append_assoc]
            rfl

/-- An object is read with the fields that were written, in their order. -/
theorem denotes_object {written : List (String × List Char)}
    {fields : List (Option String × Value)} (each : List.Forall₂ FieldOf written fields) :
    Denotes (Writing.object written) (.object fields) := by
  intro stack rest _
  cases each with
  | nil =>
      calc (Progress.needValue stack).readOn? ('{' :: '}' :: rest)
          = (Progress.firstKey stack).readOn? ('}' :: rest) := Progress.readOn?_mark rfl rfl _
        _ = (Progress.close stack (.object [])).readOn? rest := Progress.readOn?_mark rfl rfl rest
  | @cons first field written fields same others =>
      obtain ⟨key, text⟩ := first
      obtain ⟨_, value⟩ := field
      obtain ⟨rfl, denotes⟩ := same
      calc (Progress.needValue stack).readOn? (Writing.object ((key, text) :: written) ++ rest)
          = (Progress.needValue stack).readOn? ('{' :: (Writing.string key ++
              ':' :: (text ++ (Writing.furtherFields written ++ rest)))) := by
            simp only [Writing.object, List.cons_append, List.append_assoc]
        _ = (Progress.firstKey stack).readOn? _ := Progress.readOn?_mark rfl rfl _
        _ = (Progress.afterField [(some key, value)] stack).readOn?
              (Writing.furtherFields written ++ rest) :=
            denotes.field rfl (apart_furtherFields written rest)
        _ = (Progress.close stack (.object ((some key, value) :: fields))).readOn? rest :=
            readOn?_furtherFields others _ stack rest

end Switchboard.Json
