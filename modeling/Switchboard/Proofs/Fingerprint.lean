import Switchboard.Config.File
import Switchboard.Contract.Standard

/-!
# Fingerprints as digests

A fingerprint is compared as a text: without the blanks around it and whatever the case of its
letters. This is the comparison of digests (`Contract.hasFingerprint_iff`). So it agrees with what a
configuration accepts as a fingerprint (`Config.isDigestText_iff`), where nothing may stand around
the digits.
-/

namespace Switchboard

open Text

/-- A digit is not white space. -/
theorem Text.isBlank_of_isDigit {c : Char} (digit : Hex.isDigit c = true) : isBlank c = false :=
  Hex.forall_ascii (P := fun c => Hex.isDigit c = true → isBlank c = false) (by decide)
    (Hex.toNat_lt_of_isDigit digit) digit

/-- Stripping a text of digits with blanks around them leaves the digits. -/
theorem Text.stripped_of_isDigit {front digits back : List Char}
    (before : ∀ c ∈ front, isBlank c = true) (behind : ∀ c ∈ back, isBlank c = true)
    (all : ∀ d ∈ digits, Hex.isDigit d = true) : Stripped (front ++ digits ++ back) digits := by
  constructor
  · exact ⟨front, back, rfl, before, behind⟩
  · intro d first
    exact isBlank_of_isDigit (all d (List.mem_of_mem_head? first))
  · intro d last
    exact isBlank_of_isDigit (all d (List.mem_of_mem_getLast? last))

/-- A text names a fingerprint if it reads, without the blanks around it, as the digest of the
shape. -/
theorem Contract.hasFingerprint_iff {c : Contract} {s : String} {core : List Char}
    (stripped : Stripped s.toList core) :
    c.hasFingerprint s = true ↔ Hex.decode? core = some (Digest.sha256 (bytes c.shape)) := by
  rw [hasFingerprint, beq_iff_eq, fingerprint, String.toList_ofList, trimmed_eq_iff.mpr stripped,
    Hex.decode?_eq_some_iff, digest]

namespace Config

/-- A text is accepted as a fingerprint if it reads as thirty-two bytes. -/
theorem isDigestText_iff {s : String} :
    isDigestText s = true ↔ ∃ bytes, Hex.decode? s.toList = some bytes ∧ bytes.length = 32 := by
  rw [isDigestText]
  cases read : Hex.decode? s.toList with
  | none => simp
  | some bytes => simp

/-- The configuration was loaded from a text or from a file. -/
def Loaded (config : Config) : Prop :=
  (∃ text, ofYaml text = .ok config) ∨ (∃ text, ofJson text = .ok config) ∨
    ∃ name content, ofFile name content = .ok config

/-- Every fingerprint in a configuration that was loaded was accepted. -/
theorem Loaded.isDigestText {config : Config} (loaded : config.Loaded) {name : String}
    {e : Expectation} (found : config.contracts.get? name = some e) {s : String}
    (given : e.fingerprint = some s) : isDigestText s = true := by
  have accepted : ∀ {text}, ofYaml text = .ok config ∨ ofJson text = .ok config →
      ∃ read : Config, read.validate = .ok config := by
    rintro text (yaml | json)
    · rw [ofYaml] at yaml
      split at yaml
      · exact ⟨_, yaml⟩
      · cases yaml
    · rw [ofJson] at json
      split at json
      · exact ⟨_, json⟩
      · cases json
  obtain ⟨read, validated⟩ : ∃ read : Config, read.validate = .ok config := by
    rcases loaded with ⟨text, yaml⟩ | ⟨text, json⟩ | ⟨name, content, file⟩
    · exact accepted (.inl yaml)
    · exact accepted (.inr json)
    · -- A file is read as the one or the other.
      rw [ofFile] at file
      split at file
      · cases file
      · split at file
        · exact accepted (.inr file)
        · exact accepted (.inl file)
  obtain ⟨rfl, wellFormed⟩ := validate_eq_ok_iff.mp validated
  have accepted := wellFormed (name, e) (Dictionary.get?_eq_some_iff.mp found)
  rwa [Config.wellFormed, given] at accepted

end Config

theorem Expectation.checkFingerprint_eq_ok_iff {e : Expectation} {s : String}
    (given : e.fingerprint = some s) {c : Contract} :
    e.checkFingerprint c = .ok () ↔ c.hasFingerprint s = true := by
  rw [checkFingerprint, given]
  cases named : c.hasFingerprint s <;> simp [named]

/-- A fingerprint that is not accepted in a configuration reads as no digest. -/
theorem Config.decode?_ne_of_refused {core : List Char} {name : String} {schema : Option UInt32}
    {cause : ConfigError} (refused : (Config.empty.withExpectation name
      ⟨schema, some (String.ofList core)⟩).validate = .error cause) (message : List UInt8) :
    Hex.decode? core ≠ some (Digest.sha256 message) := by
  intro read
  have digest : isDigestText (String.ofList core) = true :=
    isDigestText_iff.mpr ⟨_, by rwa [String.toList_ofList], Digest.length_sha256 message⟩
  have accepted : ∀ pair ∈ (Config.empty.withExpectation name
      ⟨schema, some (String.ofList core)⟩).contracts.pairs, wellFormed pair.2 = true := by
    intro pair listed
    obtain rfl : pair = (name, ⟨schema, some (String.ofList core)⟩) :=
      List.mem_singleton.mp listed
    rw [wellFormed, Option.all_some, digest]
  rw [validate_eq_ok_iff.mpr ⟨rfl, accepted⟩] at refused
  cases refused

/-- **Fingerprints compare digests.** A text names the fingerprint of a contract exactly if it
consists of sixty-four hexadecimal digits of either case, with nothing but blanks before and behind
them, and the digits read as the SHA-256 digest of the contract's shape. In a configuration that was
loaded, every fingerprint consists of sixty-four such digits, and a contract passes it exactly if
they read as this digest. A text is stripped of the blanks around it; if what is left would not be
accepted in a configuration, then the text names the fingerprint of no contract. -/
theorem fingerprints_compare_digests :
    (∀ (c : Contract) (s : String), c.hasFingerprint s = true ↔
      ∃ front digits back, s.toList = front ++ digits ++ back ∧
        (∀ b ∈ front, isBlank b = true) ∧ (∀ b ∈ back, isBlank b = true) ∧
        digits.length = 64 ∧ (∀ d ∈ digits, Hex.isDigit d = true) ∧
        Hex.decode? digits = some (Digest.sha256 (bytes c.shape))) ∧
    (∀ config : Config, config.Loaded → ∀ name e, config.contracts.get? name = some e →
      ∀ s, e.fingerprint = some s →
        s.toList.length = 64 ∧ (∀ d ∈ s.toList, Hex.isDigit d = true) ∧
          ∀ c, e.checkFingerprint c = .ok () ↔
            Hex.decode? s.toList = some (Digest.sha256 (bytes c.shape))) ∧
    (∀ s : String, ∃ core, Stripped s.toList core ∧
      ∀ name schema cause, (Config.empty.withExpectation name
          ⟨schema, some (String.ofList core)⟩).validate = .error cause →
        ∀ c : Contract, c.hasFingerprint s = false ∧
          (⟨schema, some s⟩ : Expectation).checkFingerprint c =
            .error (.fingerprintMismatch c.name s c.fingerprint)) := by
  refine ⟨?_, ?_, ?_⟩
  · intro c s
    constructor
    · intro named
      have stripped := stripped_trimmed s.toList
      have read := (Contract.hasFingerprint_iff stripped).mp named
      obtain ⟨front, back, split, before, behind⟩ := stripped.around
      obtain ⟨long, digits⟩ := Hex.digits_of_decode? read
      rw [Digest.length_sha256] at long
      exact ⟨front, _, back, split, before, behind, long, digits, read⟩
    · rintro ⟨front, digits, back, split, before, behind, -, all, read⟩
      have stripped := stripped_of_isDigit before behind all
      rw [← split] at stripped
      exact (Contract.hasFingerprint_iff stripped).mpr read
  · intro config loaded name e found s given
    obtain ⟨bytes, read, whole⟩ := Config.isDigestText_iff.mp (loaded.isDigestText found given)
    obtain ⟨long, digits⟩ := Hex.digits_of_decode? read
    refine ⟨by rw [long, whole], digits, fun c => ?_⟩
    -- Nothing is left out, since no digit is blank.
    have stripped : Stripped ([] ++ s.toList ++ []) s.toList :=
      stripped_of_isDigit nofun nofun digits
    rw [List.nil_append, List.append_nil] at stripped
    rw [Expectation.checkFingerprint_eq_ok_iff given, Contract.hasFingerprint_iff stripped]
  · intro s
    refine ⟨trimmed s.toList, stripped_trimmed s.toList, ?_⟩
    intro name schema cause refused c
    have other : c.hasFingerprint s = false := by
      rw [Bool.eq_false_iff]
      intro named
      -- A digest would have been accepted.
      exact Config.decode?_ne_of_refused refused _
        ((Contract.hasFingerprint_iff (stripped_trimmed s.toList)).mp named)
    refine ⟨other, ?_⟩
    simp [Expectation.checkFingerprint, other]

/-- The shape of a memory. -/
def memoryShape : String :=
  "read(usize)->Option<Cell>;size()->usize;write(usize,Cell)->bool;"

/-- The digest of this shape, in digits of both cases. -/
def memoryDigest : String :=
  "9dD0C0349cF2E4287a5505DcCaF01954725a2fB13c4e16EdF7AaB78eF9Ad4021"

/-- What a host expects of memories, as it writes it. -/
def memoryText : String :=
  "\x7b\"contracts\":\x7b\"memory\":\x7b\"fingerprint\":\"" ++ memoryDigest ++
    "\"\x7d\x7d\x7d"

/-- What a host expects of memories. -/
def memoryExpected : Config :=
  Config.empty.withExpectation "memory" ⟨none, some memoryDigest⟩

/-- The characters that are white space, in the order of their code points. -/
def margin : List Char :=
  ['\t', '\n', '\u000b', '\u000c', '\r', ' ', '\u0085', '\u00a0', '\u1680', '\u2000', '\u2001',
    '\u2002', '\u2003', '\u2004', '\u2005', '\u2006', '\u2007', '\u2008', '\u2009', '\u200a',
    '\u2028', '\u2029', '\u202f', '\u205f', '\u3000']

/-- The digits of the digest with blanks around them. -/
def spacedDigest : String :=
  String.ofList (margin ++ memoryDigest.toList ++ margin)

/-- The digits of the digest behind a digit that only looks like the first of them. -/
def lookalike : List Char :=
  '\uff19' :: memoryDigest.toList.drop 1

set_option maxRecDepth 8000 in
/-- A memory passes what is expected of it, and the same digits with blanks of all kinds around them
name its fingerprint. With another character for the first digit, the text names no contract. -/
theorem fingerprints_compare_digests_of_memory :
    memoryExpected.Loaded ∧ (Contract.memory default).shape = memoryShape ∧
    (⟨none, some memoryDigest⟩ : Expectation).checkFingerprint (.memory default) = .ok () ∧
    (Contract.memory default).hasFingerprint spacedDigest = true ∧
    ∀ c : Contract, c.hasFingerprint (String.ofList (margin ++ lookalike ++ margin)) = false := by
  have loaded : memoryExpected.Loaded := .inr (.inl ⟨memoryText, by rfl⟩)
  have lines : sorted ((Contract.memory default).operations.map Operation.text) =
      ["read(usize)->Option<Cell>;", "size()->usize;", "write(usize,Cell)->bool;"] :=
    sorted_eq_of_perm (by decide) (by decide +kernel)
  have shape : (Contract.memory default).shape = memoryShape := congrArg String.join lines
  have read : Hex.decode? memoryDigest.toList =
      some (Digest.sha256 (bytes (Contract.memory default).shape)) := by
    rw [shape]
    decide +kernel
  have blank : ∀ b ∈ margin, isBlank b = true := List.all_eq_true.mp (by decide)
  obtain ⟨named, configured, stripped⟩ := fingerprints_compare_digests
  obtain ⟨long, digits, passes⟩ := configured memoryExpected loaded "memory"
    ⟨none, some memoryDigest⟩ rfl memoryDigest rfl
  refine ⟨loaded, shape, (passes _).mpr read, ?_, ?_⟩
  · exact (named _ _).mpr ⟨margin, memoryDigest.toList, margin, String.toList_ofList, blank, blank,
      long, digits, read⟩
  · obtain ⟨core, alone, refused⟩ := stripped (String.ofList (margin ++ lookalike ++ margin))
    rw [String.toList_ofList] at alone
    have first : lookalike.head? = some '\uff19' := rfl
    have last : lookalike.getLast? = some '1' := by decide +kernel
    have bare : Stripped (margin ++ lookalike ++ margin) lookalike := by
      refine ⟨⟨margin, margin, rfl, blank, blank⟩, ?_, ?_⟩
      · intro b found
        obtain rfl := Option.some.inj (first.symm.trans found)
        decide
      · intro b found
        obtain rfl := Option.some.inj (last.symm.trans found)
        decide
    have left : core = lookalike := by
      rw [← trimmed_eq_iff.mpr alone, trimmed_eq_iff.mpr bare]
    have other : (Config.empty.withExpectation "memory"
        ⟨none, some (String.ofList core)⟩).validate =
          .error (Config.malformedFingerprint "memory") := by
      rw [left]
      rfl
    exact fun c => (refused "memory" none _ other c).1

end Switchboard
