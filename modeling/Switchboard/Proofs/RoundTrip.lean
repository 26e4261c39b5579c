import Switchboard.Proofs.Fingerprint
import Switchboard.Proofs.Json.Writing

/-!
# Configurations in JSON read back

What is written for a configuration denotes a value (`Config.read?_toJson`), and this value is read
as the same configuration (`Config.config?_json`), whatever its names and texts are. So loading the
text of a configuration amounts to validating the configuration (`Config.ofJson_toJson`): it is
accepted just as it was if its fingerprints are digests, and otherwise one of them is reported
(`Config.json_reads_back`).
-/

namespace Switchboard

open Text
open Json (Value Denotes FieldOf denotes_object denotes_string denotes_natural forall₂_optional)

/-! ## What is written -/

/-- The value that is written for an expectation. -/
def Expectation.json (e : Expectation) : Value :=
  .object
    ((e.schema.map fun schema => (some "schema", .number (Numeral.decimal schema.toNat))).toList ++
      (e.fingerprint.map fun text => (some "fingerprint", .string (some text))).toList)

/-- The value that is written for a configuration. -/
def Config.json (config : Config) : Value :=
  .object [(some "contracts",
    .object (config.contracts.pairs.map fun pair => (some pair.1, pair.2.json)))]

theorem Config.denotes_expectationJson (e : Expectation) : Denotes (expectationJson e) e.json := by
  apply denotes_object
  apply List.rel_append
  · apply forall₂_optional
    intro schema
    exact ⟨rfl, denotes_natural schema.toNat⟩
  · apply forall₂_optional
    intro text
    exact ⟨rfl, denotes_string text⟩

/-- The text of a configuration is read as the value that was written. -/
theorem Config.read?_toJson (config : Config) :
    Value.read? config.toJson.toList = some config.json := by
  have contracts : List.Forall₂ FieldOf
      (config.contracts.pairs.map fun pair => (pair.1, expectationJson pair.2))
      (config.contracts.pairs.map fun pair => (some pair.1, pair.2.json)) := by
    rw [List.forall₂_map_left_iff, List.forall₂_map_right_iff, List.forall₂_same]
    intro pair _
    exact ⟨rfl, denotes_expectationJson pair.2⟩
  rw [toJson, String.toList_ofList]
  exact (denotes_object (.cons ⟨rfl, denotes_object contracts⟩ .nil)).read?

/-! ## What it is read as -/

theorem Json.Value.schema?_decimal (schema : UInt32) :
    schema? (.number (Numeral.decimal schema.toNat)) = some schema := by
  have small : schema.toNat < UInt32.size := schema.toNat_lt
  rw [schema?, natural?, Numeral.read?_decimal, Option.filter_some, if_pos (decide_eq_true small),
    Option.map_some, UInt32.ofNat_toNat]

theorem Expectation.expectation?_json (e : Expectation) :
    Value.expectation? e.json = some e := by
  obtain ⟨schema, fingerprint⟩ := e
  -- Which of the two fields are there decides what is found under their names.
  cases schema <;> cases fingerprint <;>
    simp [json, Value.expectation?, Value.record?, Value.entries?, Value.optional?,
      Value.schema?_decimal, Value.text?]

/-- If each item is read, so is the list of them. -/
theorem mapM_map_eq_some {α β γ : Type} {read : β → Option γ} {write : α → β} {meant : α → γ}
    (each : ∀ a, read (write a) = some (meant a)) (items : List α) :
    (items.map write).mapM read = some (items.map meant) := by
  have composed : read ∘ write = fun a => some (meant a) := funext each
  rw [List.mapM_map, composed]
  exact List.mapM_pure

theorem Config.contracts?_json (contracts : Dictionary String Expectation) :
    Value.contracts? (.object (contracts.pairs.map fun pair => (some pair.1, pair.2.json))) =
      some contracts := by
  have entries : Value.entries?
      (.object (contracts.pairs.map fun pair => (some pair.1, pair.2.json))) =
        some (contracts.pairs.map fun pair => (pair.1, pair.2.json)) := by
    rw [Value.entries?]
    apply mapM_map_eq_some
    intro pair
    rfl
  have each : ∀ pair : String × Expectation,
      (Value.expectation? pair.2.json).map (pair.1, ·) = some pair := by
    intro pair
    rw [pair.2.expectation?_json, Option.map_some]
  rw [Value.contracts?, entries]
  show Option.bind (List.mapM _ _) _ = _
  rw [mapM_map_eq_some each, List.map_id']
  exact congrArg some contracts.ofPairs_pairs

theorem Config.config?_json (config : Config) : Value.config? config.json = some config := by
  have fields : Value.record? ["contracts"] config.json = some [some
      (.object (config.contracts.pairs.map fun pair => (some pair.1, pair.2.json)))] := by
    simp [json, Value.record?, Value.entries?]
  rw [Value.config?, fields]
  show (Value.contracts? _).bind _ = _
  rw [contracts?_json]
  rfl

/-- To load the text of a configuration is to validate the configuration. -/
theorem Config.ofJson_toJson (config : Config) : ofJson config.toJson = config.validate := by
  rw [ofJson, read?_toJson, Option.bind_some, config?_json]

/-- The number of a component reads back as well. -/
theorem ComponentId.ofJson?_toJson (id : ComponentId) : ofJson? id.toJson = some id := by
  have small : id.number.toNat < UInt64.size := id.number.toNat_lt
  rw [ofJson?, toJson, String.toList_ofList, (denotes_natural _).read?, Option.bind_some,
    Value.component?, Value.natural?, Numeral.read?_decimal, Option.filter_some,
    if_pos (decide_eq_true small), Option.map_some, UInt64.ofNat_toNat]

/-! ## Fingerprints -/

namespace Config

/-- A text of sixty-four hexadecimal digits of either case. -/
def DigestDigits (s : String) : Prop :=
  s.toList.length = 64 ∧ ∀ d ∈ s.toList, Hex.isDigit d = true

/-- Every fingerprint in a configuration consists of sixty-four hexadecimal digits. -/
def Fingerprinted (config : Config) : Prop :=
  ∀ name e, config.contracts.get? name = some e → ∀ s, e.fingerprint = some s → DigestDigits s

/-- A text is accepted as a fingerprint if it consists of sixty-four digits. -/
theorem isDigestText_iff_digits {s : String} : isDigestText s = true ↔ DigestDigits s := by
  rw [isDigestText_iff]
  constructor
  · rintro ⟨bytes, read, whole⟩
    obtain ⟨long, digits⟩ := Hex.digits_of_decode? read
    exact ⟨by rw [long, whole], digits⟩
  · rintro ⟨long, digits⟩
    obtain ⟨bytes, read⟩ := Hex.exists_decode? (by rw [long]) digits
    have twice := (Hex.digits_of_decode? read).1
    exact ⟨bytes, read, by omega⟩

theorem wellFormed_iff {e : Expectation} :
    wellFormed e = true ↔ ∀ s, e.fingerprint = some s → DigestDigits s := by
  rw [wellFormed, Option.all_eq_true]
  exact forall₂_congr fun s _ => isDigestText_iff_digits

theorem fingerprinted_iff {config : Config} :
    config.Fingerprinted ↔ ∀ pair ∈ config.contracts.pairs, wellFormed pair.2 = true := by
  constructor
  · intro fingerprinted pair listed
    rw [wellFormed_iff]
    exact fingerprinted pair.1 pair.2 (Dictionary.get?_eq_some_iff.mpr listed)
  · intro all name e found
    exact wellFormed_iff.mp (all (name, e) (Dictionary.get?_eq_some_iff.mp found))

/-- **Configurations read back.** A configuration is written with its entries in some order. If all
of its fingerprints consist of sixty-four hexadecimal digits, then what was written is loaded just
as it was written, with all names, expectations and empty expectations that the configuration has,
and so with the same expectation under every name. If one of them does not, the text is not loaded,
and such a fingerprint is reported. -/
theorem json_reads_back {config written : Config}
    (reordered : written.contracts.pairs.Perm config.contracts.pairs) :
    (config.Fingerprinted → ofJson written.toJson = .ok written ∧
      ∀ name, written.contracts.get? name = config.contracts.get? name ∧
        written.expectation? name = config.expectation? name) ∧
    (¬ config.Fingerprinted → ∃ name e s, config.contracts.get? name = some e ∧
      e.fingerprint = some s ∧ ¬ DigestDigits s ∧
      ofJson written.toJson = .error (malformedFingerprint name)) := by
  have same : ∀ name, written.contracts.get? name = config.contracts.get? name :=
    Dictionary.get?_of_perm reordered
  have fingerprinted : written.Fingerprinted ↔ config.Fingerprinted := by
    unfold Fingerprinted
    simp only [same]
  rw [ofJson_toJson, ← fingerprinted, fingerprinted_iff]
  constructor
  · intro all
    refine ⟨validate_eq_ok_iff.mpr ⟨rfl, all⟩, fun name => ⟨same name, ?_⟩⟩
    rw [expectation?, expectation?, same]
  · intro refused
    obtain ⟨⟨name, e⟩, listed, malformed, reported⟩ := validate_eq_error refused
    have found : config.contracts.get? name = some e := by
      rw [← same]
      exact Dictionary.get?_eq_some_iff.mpr listed
    rw [← Bool.not_eq_true, wellFormed_iff, not_forall] at malformed
    obtain ⟨s, malformed⟩ := malformed
    obtain ⟨given, other⟩ := Classical.not_imp.mp malformed
    exact ⟨name, e, s, found, given, other, reported⟩

/-- Names with quotes, escapes, control characters and letters of many bytes, and an empty one. -/
def oddNames : Config where
  contracts := .ofPairs
    [("z\"80\\\x08\x01\x7f", ⟨some 4294967295, some (String.ofList (List.replicate 64 'F'))⟩),
      ("", .none), ("métier\u2028😀", ⟨some 0, none⟩)]

/-- The same names with their entries in another order. -/
def oddNamesTurned : Config where
  contracts := .ofPairs oddNames.contracts.pairs.reverse

/-- A fingerprint with one digit too few. -/
def shortFingerprint : Config :=
  Config.empty.withExpectation "cpu" ⟨some 1, some (String.ofList (List.replicate 63 '0'))⟩

/-- Odd names read back, in whichever order they are written, and a short fingerprint is reported. -/
theorem json_reads_back_with_odd_names :
    oddNamesTurned.contracts.pairs.Perm oddNames.contracts.pairs ∧ oddNames.Fingerprinted ∧
    ofJson oddNamesTurned.toJson = .ok oddNamesTurned ∧
    (∀ name, oddNamesTurned.expectation? name = oddNames.expectation? name) ∧
    ofJson shortFingerprint.toJson = .error (malformedFingerprint "cpu") := by
  have turned : oddNamesTurned.contracts.pairs.Perm oddNames.contracts.pairs := by
    rw [oddNamesTurned, Dictionary.pairs_ofPairs (by decide)]
    exact List.reverse_perm _
  have digests : oddNames.Fingerprinted := fingerprinted_iff.mpr (by decide)
  have short : ¬ shortFingerprint.Fingerprinted := mt fingerprinted_iff.mp (by decide)
  obtain ⟨loaded, same⟩ := (json_reads_back turned).1 digests
  obtain ⟨name, e, s, found, -, -, reported⟩ := (json_reads_back (.refl _)).2 short
  obtain ⟨rfl, -⟩ := Prod.ext_iff.mp
    (List.mem_singleton.mp (Dictionary.get?_eq_some_iff.mp found))
  exact ⟨turned, digests, loaded, fun name => (same name).2, reported⟩

end Config

end Switchboard
