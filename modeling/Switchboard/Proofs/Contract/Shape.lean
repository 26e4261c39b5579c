import Mathlib.Data.List.Perm.Basic
import Mathlib.Data.Set.List
import Switchboard.Contract.Shape
import Switchboard.Contract.Standard

/-!
# What a shape tells

The shape of a contract is a text without any marks but those that the texts of its operations
bring. If the names, parameters and results of operations keep clear of these marks
(`Operation.Plain`), nothing of them is lost:

* **an operation** — its text ends at the first semicolon, its name at the first bracket, its
  parameters at the first closing bracket, and each parameter at a comma, so it can be read back
  (`Operation.Plain.text_injective`);
* **a list of texts** — texts that end at their only semicolon can be told apart when they are
  written one after the other (`Text.join_injective`);
* **the shape** — the order of the operations is lost, since their texts are sorted, and nothing
  else (`Contract.shape_tells_operations`).
-/

namespace Switchboard

namespace Text

/-! ## Marks -/

/-- What comes before the first mark, and what comes after it. -/
theorem cut_unique {α : Type} {mark : α} {a b rest rest' : List α} (clear : mark ∉ a)
    (clear' : mark ∉ b) (same : a ++ mark :: rest = b ++ mark :: rest') : a = b ∧ rest = rest' := by
  -- If one of the two went on where the other ends, it would go on with the mark.
  rcases List.append_eq_append_iff.mp same with ⟨more, longer, left⟩ | ⟨more, longer, left⟩
  · cases more with
    | nil => exact ⟨by rw [longer, List.append_nil], (List.cons.inj left).2⟩
    | cons next _ =>
        obtain rfl : mark = next := (List.cons.inj left).1
        exact absurd (longer ▸ List.mem_append_right a List.mem_cons_self) clear'
  · cases more with
    | nil => exact ⟨by rw [longer, List.append_nil], (List.cons.inj left).2.symm⟩
    | cons next _ =>
        obtain rfl : mark = next := (List.cons.inj left).1
        exact absurd (longer ▸ List.mem_append_right b List.mem_cons_self) clear

theorem mem_intercalate {α : Type} {mark c : α} {parts : List (List α)}
    (member : c ∈ [mark].intercalate parts) : c = mark ∨ ∃ part ∈ parts, c ∈ part := by
  induction parts with
  | nil => exact absurd member List.not_mem_nil
  | cons part rest ih =>
      cases rest with
      | nil =>
          rw [List.intercalate_singleton] at member
          exact .inr ⟨part, List.mem_cons_self, member⟩
      | cons next rest =>
          rw [List.intercalate_cons_cons, List.append_assoc] at member
          rcases List.mem_append.mp member with here | later
          · exact .inr ⟨part, List.mem_cons_self, here⟩
          · rcases List.mem_append.mp later with between | later
            · exact .inl (List.mem_singleton.mp between)
            · rcases ih later with between | ⟨other, listed, inside⟩
              · exact .inl between
              · exact .inr ⟨other, List.mem_cons_of_mem _ listed, inside⟩

/-- A text that ends at its only semicolon. -/
def Terminated (text : String) : Prop :=
  ∃ body, text.toList = body ++ [';'] ∧ ';' ∉ body

/-- Texts that end at their only semicolons can be told apart when they stand one after the
other. -/
theorem join_injective {texts others : List String} (ended : ∀ t ∈ texts, Terminated t)
    (ended' : ∀ t ∈ others, Terminated t) (same : String.join texts = String.join others) :
    texts = others := by
  have same : texts.flatMap String.toList = others.flatMap String.toList := by
    rw [← String.toList_join, ← String.toList_join, same]
  induction texts generalizing others with
  | nil =>
      cases others with
      | nil => rfl
      | cons t _ =>
          obtain ⟨body, last, -⟩ := ended' t List.mem_cons_self
          simp [last] at same
  | cons t rest ih =>
      obtain ⟨body, last, clear⟩ := ended t List.mem_cons_self
      cases others with
      | nil => simp [last] at same
      | cons u rest' =>
          obtain ⟨body', last', clear'⟩ := ended' u List.mem_cons_self
          simp only [List.flatMap_cons, last, last', List.append_assoc, List.singleton_append]
            at same
          obtain ⟨rfl, later⟩ := cut_unique clear clear' same
          have here : t = u := String.toList_inj.mp (last.trans last'.symm)
          have tail := ih (fun t member => ended t (List.mem_cons_of_mem _ member))
            (fun t member => ended' t (List.mem_cons_of_mem _ member)) ?_ later
          · rw [here, tail]
          · apply String.toList_inj.mp
            rw [String.toList_join, String.toList_join, later]

end Text

/-! ## An operation -/

namespace Operation

/-- An operation whose name, parameters and result do not contain the marks behind them. -/
structure Plain (o : Operation) : Prop where
  name : '(' ∉ o.name.toList ∧ ';' ∉ o.name.toList
  params : ∀ p ∈ o.params, p ≠ "" ∧ ',' ∉ p.toList ∧ ')' ∉ p.toList ∧ ';' ∉ p.toList
  returns : ';' ∉ o.returns.toList

instance (o : Operation) : Decidable o.Plain :=
  decidable_of_iff
    (('(' ∉ o.name.toList ∧ ';' ∉ o.name.toList) ∧
      (∀ p ∈ o.params, p ≠ "" ∧ ',' ∉ p.toList ∧ ')' ∉ p.toList ∧ ';' ∉ p.toList) ∧
      ';' ∉ o.returns.toList)
    ⟨fun ⟨name, params, returns⟩ => ⟨name, params, returns⟩,
      fun ⟨name, params, returns⟩ => ⟨name, params, returns⟩⟩

/-- The parameters of an operation, as they are written. -/
def paramText (o : Operation) : List Char :=
  [','].intercalate (o.params.map String.toList)

theorem toList_text (o : Operation) : o.text.toList =
    o.name.toList ++ '(' :: (o.paramText ++
      ')' :: ('-' :: '>' :: (o.returns.toList ++ [';']))) := by
  simp [text, paramText, String.toList_intercalate]

namespace Plain

variable {o p : Operation}

/-- Behind the parameters comes a mark that is none of theirs. -/
theorem clear (plain : o.Plain) : ')' ∉ o.paramText ∧ ';' ∉ o.paramText := by
  have part : ∀ c ∈ o.paramText, c = ',' ∨ c ≠ ')' ∧ c ≠ ';' := by
    intro c member
    rcases Text.mem_intercalate member with between | ⟨_, listed, inside⟩
    · exact .inl between
    · obtain ⟨param, given, rfl⟩ := List.mem_map.mp listed
      obtain ⟨-, -, bracket, semicolon⟩ := plain.params param given
      exact .inr ⟨fun same => bracket (same ▸ inside), fun same => semicolon (same ▸ inside)⟩
  constructor
  · intro member
    rcases part _ member with comma | ⟨bracket, -⟩
    · exact absurd comma (by decide)
    · exact bracket rfl
  · intro member
    rcases part _ member with comma | ⟨-, semicolon⟩
    · exact absurd comma (by decide)
    · exact semicolon rfl

theorem terminated (plain : o.Plain) : Text.Terminated o.text := by
  refine ⟨o.name.toList ++ '(' :: (o.paramText ++ ')' :: ('-' :: '>' :: o.returns.toList)), ?_, ?_⟩
  · rw [toList_text]
    simp
  · simp [plain.name.2, plain.clear.2, plain.returns]

/-- No parameters are written as nothing, and others are cut at the commas. -/
theorem params_injective (plain : o.Plain) (plain' : p.Plain) (same : o.paramText = p.paramText) :
    o.params = p.params := by
  have clear : ∀ {q : Operation}, q.Plain → ∀ part ∈ q.params.map String.toList, ',' ∉ part := by
    intro q plain part listed
    obtain ⟨param, given, rfl⟩ := List.mem_map.mp listed
    exact (plain.params param given).2.1
  have empty : ∀ {q : Operation}, q.Plain → q.paramText = [] → q.params = [] := by
    intro q plain nothing
    cases params : q.params with
    | nil => rfl
    | cons param rest =>
        have given := (plain.params param (params ▸ List.mem_cons_self)).1
        rw [paramText, params] at nothing
        cases rest with
        | nil => simp [given] at nothing
        | cons _ _ => simp [given] at nothing
  by_cases nothing : o.paramText = []
  · rw [empty plain nothing, empty plain' (same ▸ nothing)]
  · have some : o.params.map String.toList ≠ [] :=
      fun none => nothing (by rw [paramText, none]; rfl)
    have some' : p.params.map String.toList ≠ [] :=
      fun none => nothing (by rw [same, paramText, none]; rfl)
    have cut := congrArg (List.splitOn ',') same
    rw [paramText, paramText, List.splitOn_intercalate _ (clear plain) some,
      List.splitOn_intercalate _ (clear plain') some'] at cut
    exact (List.map_inj_right fun _ _ => String.toList_inj.mp).mp cut

/-- Two operations with one text are the same. -/
theorem text_injective (plain : o.Plain) (plain' : p.Plain) (same : o.text = p.text) : o = p := by
  have same := congrArg String.toList same
  rw [toList_text, toList_text] at same
  obtain ⟨name, behind⟩ := Text.cut_unique plain.name.1 plain'.name.1 same
  obtain ⟨params, behind⟩ := Text.cut_unique plain.clear.1 plain'.clear.1 behind
  have returns : o.returns.toList = p.returns.toList := by simpa using behind
  cases o
  cases p
  simp only [Operation.mk.injEq]
  exact ⟨String.toList_inj.mp name, plain.params_injective plain' params,
    String.toList_inj.mp returns⟩

end Plain

/-- Operations with the same texts, in some order, are the same, in some order. -/
theorem perm_of_texts {l l' : List Operation} (plain : ∀ o ∈ l, o.Plain)
    (plain' : ∀ o ∈ l', o.Plain) (perm : (l.map text).Perm (l'.map text)) : l.Perm l' := by
  lift l to List {o : Operation // o.Plain} using plain
  lift l' to List {o : Operation // o.Plain} using plain'
  rw [List.map_map, List.map_map] at perm
  have injective : Function.Injective (text ∘ Subtype.val : {o : Operation // o.Plain} → String) :=
    fun o p same => Subtype.ext (o.2.text_injective p.2 same)
  exact ((List.map_perm_map_iff injective).mp perm).map _

end Operation

/-! ## The shape -/

namespace Contract

/-- **A shape tells the operations.** Contracts whose operations are the same, in whatever order,
have one shape and one fingerprint. If names, parameters and results keep clear of the marks behind
them, contracts have one shape only if their operations are the same, each as often, in whatever
order. -/
theorem shape_tells_operations (c d : Contract) :
    (c.operations.Perm d.operations → c.shape = d.shape ∧ c.fingerprint = d.fingerprint) ∧
    ((∀ o ∈ c.operations, o.Plain) → (∀ o ∈ d.operations, o.Plain) →
      (c.shape = d.shape ↔ c.operations.Perm d.operations)) := by
  have reordered : c.operations.Perm d.operations → c.shape = d.shape := by
    intro perm
    rw [shape, shape, Text.sorted_eq_iff_perm.mpr (perm.map Operation.text)]
  constructor
  · intro perm
    refine ⟨reordered perm, ?_⟩
    rw [fingerprint, fingerprint, digest, digest, reordered perm]
  · intro plain plain'
    refine ⟨fun same => ?_, reordered⟩
    have ended : ∀ {operations : List Operation}, (∀ o ∈ operations, o.Plain) →
        ∀ t ∈ Text.sorted (operations.map Operation.text), Text.Terminated t := by
      intro operations plain t member
      obtain ⟨o, listed, rfl⟩ := List.mem_map.mp ((Text.sorted_perm _).mem_iff.mp member)
      exact (plain o listed).terminated
    have sorted := Text.join_injective (ended plain) (ended plain') same
    exact Operation.perm_of_texts plain plain' (Text.sorted_eq_iff_perm.mp sorted)

/-- The operations of the standard contracts keep clear of the marks. -/
theorem plain_of_standard (id : ContractId) :
    ∀ c ∈ [cpu id, memory id, device id, compiler id], ∀ o ∈ c.operations, o.Plain := by
  have operations : ∀ l ∈ [(cpu id).operations, (memory id).operations, (device id).operations,
      (compiler id).operations], ∀ o ∈ l, o.Plain := by
    show ∀ l ∈ [(cpu default).operations, (memory default).operations, (device default).operations,
      (compiler default).operations], ∀ o ∈ l, o.Plain
    decide
  intro c standard
  exact operations c.operations (List.mem_map_of_mem standard)

/-- A memory that declares operations of its own. -/
def memoryWith (operations : List Operation) : Contract :=
  { memory default with operations := operations }

/-- A memory that declares its operations in another order has the shape of a memory. One that takes
no cell to write, or declares two ways to read, does not. -/
theorem shape_tells_operations_of_memory :
    (∀ o ∈ (memory default).operations, o.Plain) ∧
    (memoryWith (memory default).operations.reverse).fingerprint = (memory default).fingerprint ∧
    (memoryWith [⟨"size", [], "usize"⟩, ⟨"read", ["usize"], "Option<Cell>"⟩,
      ⟨"write", ["usize"], "bool"⟩]).shape ≠ (memory default).shape ∧
    (memoryWith (⟨"read", ["u8"], "Cell"⟩ :: (memory default).operations)).shape ≠
      (memory default).shape := by
  have plain : ∀ o ∈ (memory default).operations, o.Plain :=
    plain_of_standard default (memory default) (by decide)
  have tells : ∀ operations : List Operation, (∀ o ∈ operations, o.Plain) →
      ((memoryWith operations).shape = (memory default).shape ↔
        operations.Perm (memory default).operations) := fun operations plain' =>
    (shape_tells_operations (memoryWith operations) (memory default)).2 plain' plain
  refine ⟨plain, ?_, ?_, ?_⟩
  · exact ((shape_tells_operations (memoryWith _) (memory default)).1 (List.reverse_perm _)).2
  · rw [Ne, tells _ (by decide)]
    decide
  · rw [Ne, tells _ (by decide)]
    decide

end Contract

end Switchboard
