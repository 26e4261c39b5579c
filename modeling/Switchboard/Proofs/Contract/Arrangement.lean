import Switchboard.Proofs.Contract.Shape

/-!
# In which order operations are written

The shape of a contract has the texts of its operations in the order of these texts. Another order
suggests itself: by name, and among operations of one name by text. The two differ where the name of
an operation begins with the whole name of another one. There the bracket behind the shorter name is
compared with what the longer name goes on with, and the longer one may be written first
(`Operation.OvertakenBy`):

* **what decides** — a name that goes on with a byte below the bracket is written first, one that goes
  on with a byte above it is not (`Operation.overtakenBy_of_lt`, `Operation.not_overtakenBy_of_lt`),
  and nothing else can change places (`Operation.overtakenBy_iff`);
* **exactly** — the two orders are the same for the operations of a contract exactly if none of them
  is overtaken (`Contract.lines_eq_iff`), and then the shape is what it would be by name. Otherwise it
  is not, unless texts run into each other (`Contract.shape_by_name_iff`).
-/

namespace Switchboard

namespace Text

/-! ## Comparing bytes -/

/-- If some bytes go before others, the others go on where these end, or it is decided within
both. -/
theorem lt_cases {a b : List UInt8} (less : a < b) :
    (∃ more, more ≠ [] ∧ b = a ++ more) ∨ ∀ s t, a ++ s < b ++ t := by
  induction a generalizing b with
  | nil =>
      left
      exact ⟨b, fun nothing => by simp [nothing] at less, rfl⟩
  | cons x rest ih =>
      cases b with
      | nil => simp at less
      | cons y rest' =>
          rcases List.cons_lt_cons_iff.mp less with here | ⟨rfl, later⟩
          · right
            intro s t
            exact List.cons_lt_cons_iff.mpr (.inl here)
          · rcases ih later with ⟨more, some, rfl⟩ | decided
            · exact .inl ⟨more, some, rfl⟩
            · right
              intro s t
              exact List.cons_lt_cons_iff.mpr (.inr ⟨rfl, decided s t⟩)

theorem append_lt_append_iff {common a b : List UInt8} : common ++ a < common ++ b ↔ a < b := by
  induction common with
  | nil => rfl
  | cons x rest ih => simp [ih]

theorem precedes_iff {s t : String} : precedes s t = true ↔ ¬ bytes t < bytes s :=
  decide_eq_true_iff

end Text

namespace Operation

/-- The text of an operation behind its name. -/
def signature (o : Operation) : String :=
  "(" ++ ",".intercalate o.params ++ ")->" ++ o.returns ++ ";"

theorem text_eq (o : Operation) : o.text = o.name ++ o.signature := by
  simp only [text, signature, String.append_assoc]

/-- Whether one operation goes before another by name, or by text if the names are the same. -/
def precedes (a b : Operation) : Bool :=
  if a.name ≠ b.name then Text.precedes a.name b.name else Text.precedes a.text b.text

/-- Operations in the order of their names. -/
def arranged (operations : List Operation) : List Operation :=
  operations.mergeSort precedes

theorem arranged_ascending (operations : List Operation) :
    (arranged operations).Pairwise fun a b => a.precedes b = true := by
  refine List.pairwise_mergeSort ?_ ?_ operations
  · intro a b c first second
    unfold precedes at *
    grind [Text.precedes_trans, Text.precedes_antisymm]
  · intro a b
    unfold precedes
    grind [Text.precedes_total]

/-! ## Overtaking -/

/-- The name of `b` begins with the name of `a`, and yet the text of `b` goes before the text of `a`:
what the longer name goes on with goes before what stands behind the shorter one. -/
def OvertakenBy (a b : Operation) : Prop :=
  ∃ more, more ≠ [] ∧ Text.bytes b.name = Text.bytes a.name ++ more ∧
    more ++ Text.bytes b.signature < Text.bytes a.signature

variable {a b : Operation}

theorem bytes_text (o : Operation) :
    Text.bytes o.text = Text.bytes o.name ++ Text.bytes o.signature := by
  rw [text_eq, Text.bytes_append]

/-- Overtaking is all that can come between the order of names and that of texts. -/
theorem overtakenBy_iff : a.OvertakenBy b ↔
    Text.bytes a.name < Text.bytes b.name ∧ Text.bytes b.text < Text.bytes a.text := by
  rw [bytes_text, bytes_text]
  constructor
  · rintro ⟨more, some, longer, before⟩
    rw [longer, List.append_assoc, Text.append_lt_append_iff]
    refine ⟨?_, before⟩
    obtain ⟨next, rest, rfl⟩ := List.exists_cons_of_ne_nil some
    have further : Text.bytes a.name ++ [] < Text.bytes a.name ++ next :: rest :=
      List.append_left_lt (List.nil_lt_cons next rest)
    rwa [List.append_nil] at further
  · rintro ⟨name, text⟩
    rcases Text.lt_cases name with ⟨more, some, longer⟩ | decided
    · refine ⟨more, some, longer, ?_⟩
      rwa [longer, List.append_assoc, Text.append_lt_append_iff] at text
    · exact absurd text (List.lt_asymm (decided _ _))

/-- The byte of the bracket that stands behind every name. -/
def bracket : UInt8 := '('.toUInt8

theorem bytes_signature (o : Operation) :
    ∃ rest, Text.bytes o.signature = bracket :: rest := by
  refine ⟨Text.bytes (",".intercalate o.params ++ ")->" ++ o.returns ++ ";"), ?_⟩
  rw [signature, String.append_assoc, String.append_assoc, String.append_assoc, Text.bytes_append,
    String.append_assoc, String.append_assoc]
  rfl

/-- A name that goes on with a byte below the bracket is written first. -/
theorem overtakenBy_of_lt {next : UInt8} {rest : List UInt8}
    (longer : Text.bytes b.name = Text.bytes a.name ++ next :: rest) (below : next < bracket) :
    a.OvertakenBy b := by
  obtain ⟨behind, signature⟩ := a.bytes_signature
  refine ⟨next :: rest, List.cons_ne_nil _ _, longer, ?_⟩
  rw [signature]
  exact List.cons_lt_cons_iff.mpr (.inl below)

/-- A name that goes on with a byte above the bracket is not. -/
theorem not_overtakenBy_of_lt {next : UInt8} {rest : List UInt8}
    (longer : Text.bytes b.name = Text.bytes a.name ++ next :: rest) (above : bracket < next) :
    ¬ a.OvertakenBy b := by
  rintro ⟨more, -, same, before⟩
  obtain rfl : next :: rest = more := List.append_cancel_left (longer.symm.trans same)
  obtain ⟨behind, signature⟩ := a.bytes_signature
  rw [signature] at before
  rcases List.cons_lt_cons_iff.mp before with below | ⟨same, -⟩
  · exact absurd above (UInt8.lt_asymm below)
  · exact absurd same (UInt8.ne_of_lt above).symm

theorem not_overtakenBy_self (o : Operation) : ¬ o.OvertakenBy o := by
  intro overtaken
  exact List.lt_irrefl _ (overtakenBy_iff.mp overtaken).1

/-- Sorted by name, the texts of some operations ascend exactly if none of these is overtaken. -/
theorem texts_ascending_iff (operations : List Operation) :
    ((arranged operations).map text).Pairwise (fun s t => Text.precedes s t = true) ↔
      ∀ a ∈ operations, ∀ b ∈ operations, ¬ a.OvertakenBy b := by
  have named := arranged_ascending operations
  have member : ∀ {o}, o ∈ arranged operations ↔ o ∈ operations := List.mem_mergeSort
  rw [List.pairwise_map]
  constructor
  · -- Of two operations, the one that stands first in one order does so in the other.
    intro texts a first b second
    refine List.Pairwise.forall_of_forall_of_flip (R := fun a b => ¬ a.OvertakenBy b) ?_ ?_ ?_
      (member.mpr first) (member.mpr second)
    · intro o _
      exact o.not_overtakenBy_self
    · refine texts.imp ?_
      intro a b before overtaken
      exact Text.precedes_iff.mp before (overtakenBy_iff.mp overtaken).2
    · refine named.imp ?_
      intro a b before overtaken
      have name := (overtakenBy_iff.mp overtaken).1
      have other : a.name ≠ b.name := fun same => List.lt_irrefl _ (same ▸ name)
      rw [precedes, if_pos other] at before
      exact Text.precedes_iff.mp before name
  · intro free
    refine named.imp_of_mem ?_
    intro a b first second before
    rw [precedes] at before
    split at before
    · rename_i other
      rw [Text.precedes_iff]
      intro text
      -- The names ascend, and are not the same.
      refine free a (member.mp first) b (member.mp second) (overtakenBy_iff.mpr ⟨?_, text⟩)
      rcases List.le_iff_lt_or_eq.mp (of_decide_eq_true before) with less | same
      · exact less
      · exact absurd (Text.bytes_injective same) other
    · exact before

end Operation

namespace Contract

/-! ## The shape -/

/-- The texts of a contract's operations, in the order in which they are written. -/
def lines (c : Contract) : List String :=
  Text.sorted (c.operations.map Operation.text)

/-- The same texts in the order of names. -/
def linesByName (c : Contract) : List String :=
  (Operation.arranged c.operations).map Operation.text

/-- The shape that a contract would have if its operations were written in the order of names. -/
def shapeByName (c : Contract) : String :=
  String.join c.linesByName

theorem lines_perm (c : Contract) : c.lines.Perm c.linesByName :=
  (Text.sorted_perm _).trans ((List.mergeSort_perm _ _).symm.map _)

/-- The two orders are the same exactly if no operation is overtaken. -/
theorem lines_eq_iff (c : Contract) : c.lines = c.linesByName ↔
    ∀ a ∈ c.operations, ∀ b ∈ c.operations, ¬ a.OvertakenBy b := by
  rw [← Operation.texts_ascending_iff]
  constructor
  · intro same
    show c.linesByName.Pairwise _
    rw [← same]
    exact Text.sorted_ascending _
  · intro ascending
    exact Text.sorted_eq_of_perm ((List.mergeSort_perm _ _).map _) ascending

/-- **Where names and texts disagree.** The shape is made of the texts of all operations, each as
often as it is declared, in ascending order of the texts. This is the order of names, with the text
deciding among operations of one name, exactly if no operation is overtaken; then the shape is what it
would be by name. If texts end at their only semicolon, it is so only then. An operation is overtaken
by one whose name begins with its name and goes on with a byte below the bracket, and not if it goes
on with a byte above it. -/
theorem shape_by_name_iff (c : Contract) :
    (c.shape = String.join c.lines ∧ c.lines.Perm (c.operations.map Operation.text) ∧
      c.lines.Pairwise fun s t => Text.precedes s t = true) ∧
    (c.lines = c.linesByName ↔
      ∀ a ∈ c.operations, ∀ b ∈ c.operations, ¬ a.OvertakenBy b) ∧
    ((∀ a ∈ c.operations, ∀ b ∈ c.operations, ¬ a.OvertakenBy b) → c.shape = c.shapeByName) ∧
    ((∀ o ∈ c.operations, Text.Terminated o.text) → c.shape = c.shapeByName →
      ∀ a ∈ c.operations, ∀ b ∈ c.operations, ¬ a.OvertakenBy b) ∧
    (∀ (a b : Operation) next rest, Text.bytes b.name = Text.bytes a.name ++ next :: rest →
      (next < Operation.bracket → a.OvertakenBy b) ∧
        (Operation.bracket < next → ¬ a.OvertakenBy b)) := by
  refine ⟨⟨rfl, Text.sorted_perm _, Text.sorted_ascending _⟩, c.lines_eq_iff, ?_, ?_, ?_⟩
  · intro free
    exact congrArg String.join (c.lines_eq_iff.mpr free)
  · intro ended same
    have ended' : ∀ t ∈ c.operations.map Operation.text, Text.Terminated t := by
      intro t member
      obtain ⟨o, listed, rfl⟩ := List.mem_map.mp member
      exact ended o listed
    have lined : ∀ t ∈ c.lines, Text.Terminated t := by
      intro t member
      exact ended' t ((Text.sorted_perm _).mem_iff.mp member)
    apply c.lines_eq_iff.mp
    refine Text.join_injective lined ?_ same
    intro t member
    exact lined t (c.lines_perm.mem_iff.mpr member)
  · intro a b next rest longer
    exact ⟨Operation.overtakenBy_of_lt longer, Operation.not_overtakenBy_of_lt longer⟩

/-- A sensor that can be read in two ways, of which the second is told apart by a number. -/
def sensor : Contract :=
  { capability ⟨0, "Sensor"⟩ "sensor" .device with
    operations := [⟨"read", [], "u8"⟩, ⟨"read#2", [], "u8"⟩] }

/-- The shape of a sensor has its second way to be read first. -/
theorem shape_by_name_iff_of_sensor :
    (∀ o ∈ sensor.operations, Text.Terminated o.text) ∧
      sensor.shape = "read#2()->u8;read()->u8;" ∧ sensor.shapeByName = "read()->u8;read#2()->u8;" ∧
      sensor.shape ≠ sensor.shapeByName := by
  have plain : ∀ o ∈ sensor.operations, o.Plain := by decide
  have ended : ∀ o ∈ sensor.operations, Text.Terminated o.text :=
    fun o listed => (plain o listed).terminated
  obtain ⟨-, -, -, only, overtakes⟩ := shape_by_name_iff sensor
  have lines : sensor.lines = ["read#2()->u8;", "read()->u8;"] :=
    Text.sorted_eq_of_perm (by decide) (by decide)
  have named : sensor.linesByName = ["read()->u8;", "read#2()->u8;"] := by
    rw [linesByName, Operation.arranged, List.mergeSort_of_pairwise (by decide)]
    decide
  refine ⟨ended, congrArg String.join lines, congrArg String.join named, fun same => ?_⟩
  have overtaken : sensor.operations[0].OvertakenBy sensor.operations[1] :=
    (overtakes sensor.operations[0] sensor.operations[1] 35 [50] (by decide)).1 (by decide)
  exact only ended same _ (List.getElem_mem _) _ (List.getElem_mem _) overtaken

end Contract

end Switchboard
