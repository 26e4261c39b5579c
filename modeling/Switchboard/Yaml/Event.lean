import Switchboard.Total
import Switchboard.Yaml.Token

/-!
# Events

The nodes of a document in the order of the text: aliases, scalars, and the starts
and ends of collections. A missing node counts as an empty plain scalar.

The grammar is a set of goals. `Goal.expand?` says what a goal makes of the next
tokens: the events it gives, the tokens it leaves, and the goals that take its
place. Every expansion makes the work left smaller (`workload_expand?`), so the
goals of a document are expanded until none is left.
-/

namespace Switchboard.Yaml

/-- A tag in full. -/
abbrev Tag := List Char

/-- An event. Aliases and anchors are of type `α`. -/
inductive Event (α : Type) where
  | alias (name : α)
  | scalar (anchor : Option α) (tag : Option Tag) (text : List Char) (style : Style)
  | beginSequence (anchor : Option α)
  | endSequence
  | beginMapping (anchor : Option α)
  | endMapping
deriving DecidableEq

namespace Event

/-- A node that is not written. -/
def missing {α : Type} : Event α := .scalar none none [] .plain

end Event

/-- The meanings of tag handles. -/
abbrev Handles := List (List Char × List Char)

namespace Handles

/-- The handles that every document has, unless it says otherwise. -/
def standard : Handles :=
  [(['!'], ['!']), (['!', '!'], "tag:yaml.org,2002:".toList)]

/-- The meaning of a tag, if its handle has one. -/
def resolve? (handles : Handles) (name : TagName) : Option Tag :=
  if name.handle = [] then some name.suffix
  else (handles.lookup name.handle).map (· ++ name.suffix)

end Handles

/-- What a node may have in front of its content. -/
structure Properties where
  anchor : Option (List Char)
  tag : Option TagName
deriving DecidableEq

namespace Properties

/-- An anchor and a tag, each at most once, in either order. -/
def read : List Token → Properties × List Token
  | .anchor anchor :: .tag tag :: rest => (⟨some anchor, some tag⟩, rest)
  | .tag tag :: .anchor anchor :: rest => (⟨some anchor, some tag⟩, rest)
  | .anchor anchor :: rest => (⟨some anchor, none⟩, rest)
  | .tag tag :: rest => (⟨none, some tag⟩, rest)
  | tokens => (⟨none, none⟩, tokens)

end Properties

/-- What the grammar is to find next. -/
inductive Goal where
  /-- A node. A block collection may start only where it is allowed, and items may
  stand without indentation only in a mapping. -/
  | node (inBlock loose : Bool)
  | blockItems
  | looseItems
  | blockKeys
  | blockValue
  | flowItems (first : Bool)
  | flowKeys (first : Bool)
  | flowValue
  /-- The missing value of a key that stands by itself. -/
  | noValue
  /-- A mapping of one pair among the items of a sequence. -/
  | pairKey
  | pairValue
  | pairEnd
deriving DecidableEq

/-- What becomes of a goal: events, tokens left and goals in its place. -/
structure Expansion where
  events : List (Event (List Char))
  tokens : List Token
  goals : List Goal

namespace Goal

/-- The content of a node behind its properties. -/
def content? (inBlock loose : Bool) (anchor : Option (List Char)) (tag : Option Tag) :
    List Token → Option Expansion
  | tokens@(.blockEntry :: _) =>
    if loose then some ⟨[.beginSequence anchor], tokens, [.looseItems]⟩
    else bare tokens
  | .scalar text style :: rest => some ⟨[.scalar anchor tag text style], rest, []⟩
  | .flowSequenceStart :: rest => some ⟨[.beginSequence anchor], rest, [.flowItems true]⟩
  | .flowMappingStart :: rest => some ⟨[.beginMapping anchor], rest, [.flowKeys true]⟩
  | tokens@(.blockSequenceStart :: rest) =>
    if inBlock then some ⟨[.beginSequence anchor], rest, [.blockItems]⟩ else bare tokens
  | tokens@(.blockMappingStart :: rest) =>
    if inBlock then some ⟨[.beginMapping anchor], rest, [.blockKeys]⟩ else bare tokens
  | tokens => bare tokens
where
  /-- Properties without content make an empty scalar. -/
  bare (tokens : List Token) : Option Expansion :=
    if anchor.isSome || tag.isSome then some ⟨[.scalar anchor tag [] .plain], tokens, []⟩
    else none

/-- A node. -/
def node? (handles : Handles) (inBlock loose : Bool) : List Token → Option Expansion
  | .alias name :: rest => some ⟨[.alias name], rest, []⟩
  | tokens =>
    let (properties, rest) := Properties.read tokens
    match properties.tag with
    | none => content? inBlock loose properties.anchor none rest
    | some name =>
      match handles.resolve? name with
      | none => none
      | some tag => content? inBlock loose properties.anchor (some tag) rest

/-- A node behind an indicator, missing if one of certain tokens comes next. -/
def nodeUnless (stops : List Token) (goal next : Goal) (tokens : List Token) : Expansion :=
  if tokens.head?.any stops.contains then ⟨[.missing], tokens, [next]⟩
  else ⟨[], tokens, [goal, next]⟩

/-- The items of a block sequence, up to its end. -/
def blockItems? : List Token → Option Expansion
  | .blockEntry :: rest =>
    some (nodeUnless [.blockEntry, .blockEnd] (.node true false) .blockItems rest)
  | .blockEnd :: rest => some ⟨[.endSequence], rest, []⟩
  | _ => none

/-- Items that stand without indentation; they end where there is no further one. -/
def looseItem : List Token → Expansion
  | .blockEntry :: rest =>
    nodeUnless [.blockEntry, .key, .value, .blockEnd] (.node true false) .looseItems rest
  | tokens => ⟨[.endSequence], tokens, []⟩

/-- The keys of a block mapping, up to its end. -/
def blockKeys? : List Token → Option Expansion
  | .key :: rest => some (nodeUnless [.key, .value, .blockEnd] (.node true true) .blockValue rest)
  | .blockEnd :: rest => some ⟨[.endMapping], rest, []⟩
  | _ => none

/-- A value behind its colon, missing if one of certain tokens comes next or if
there is no colon. -/
def valueUnless (stops : List Token) (goal next : Goal) : List Token → Expansion
  | .value :: rest => nodeUnless stops goal next rest
  | tokens => ⟨[.missing], tokens, [next]⟩

/-- The items of a bracketed sequence behind the comma. -/
def flowItem : List Token → Expansion
  | .flowSequenceEnd :: rest => ⟨[.endSequence], rest, []⟩
  | .key :: rest => ⟨[.beginMapping none], rest, [.pairKey, .flowItems false]⟩
  | tokens => ⟨[], tokens, [.node false false, .flowItems false]⟩

/-- The items of a bracketed sequence: all but the first stand behind a comma. -/
def flowItems? (first : Bool) (tokens : List Token) : Option Expansion :=
  if first then some (flowItem tokens)
  else
    match tokens with
    | .flowSequenceEnd :: rest => some ⟨[.endSequence], rest, []⟩
    | .flowEntry :: rest => some (flowItem rest)
    | _ => none

/-- The entries of a bracketed mapping behind the comma. -/
def flowKey : List Token → Expansion
  | .flowMappingEnd :: rest => ⟨[.endMapping], rest, []⟩
  | .key :: rest =>
    nodeUnless [.value, .flowEntry, .flowMappingEnd] (.node false false) .flowValue rest
  | tokens => ⟨[], tokens, [.node false false, .noValue]⟩

/-- The entries of a bracketed mapping: all but the first stand behind a comma. -/
def flowKeys? (first : Bool) (tokens : List Token) : Option Expansion :=
  if first then some (flowKey tokens)
  else
    match tokens with
    | .flowMappingEnd :: rest => some ⟨[.endMapping], rest, []⟩
    | .flowEntry :: rest => some (flowKey rest)
    | _ => none

/-- The key of a single pair. Where it is missing, the token that shows this is
taken away. -/
def pairKeyOf : List Token → Expansion
  | [] => ⟨[], [], [.node false false, .pairValue]⟩
  | token :: rest =>
    if [.value, .flowEntry, .flowSequenceEnd].contains token then
      ⟨[.missing], rest, [.pairValue]⟩
    else ⟨[], token :: rest, [.node false false, .pairValue]⟩

/-- What a goal makes of the next tokens. -/
def expand? (handles : Handles) (goal : Goal) (tokens : List Token) : Option Expansion :=
  match goal with
  | node inBlock loose => node? handles inBlock loose tokens
  | blockItems => blockItems? tokens
  | looseItems => some (looseItem tokens)
  | blockKeys => blockKeys? tokens
  | blockValue =>
    some (valueUnless [.key, .value, .blockEnd] (.node true true) .blockKeys tokens)
  | flowItems first => flowItems? first tokens
  | flowKeys first => flowKeys? first tokens
  | flowValue =>
    some (valueUnless [.flowEntry, .flowMappingEnd] (.node false false) (.flowKeys false) tokens)
  | noValue => some ⟨[.missing], tokens, [.flowKeys false]⟩
  | pairKey => some (pairKeyOf tokens)
  | pairValue =>
    some (valueUnless [.flowEntry, .flowSequenceEnd] (.node false false) .pairEnd tokens)
  | pairEnd => some ⟨[.endMapping], tokens, []⟩

/-! ### Every expansion makes progress -/

/-- What a goal may still cost beyond the tokens it reads. -/
def cost : Goal → Nat
  | node _ _ => 2
  | blockItems | looseItems | blockKeys => 1
  | blockValue | flowValue | noValue | pairEnd => 2
  | flowItems true => 4
  | flowKeys true => 5
  | flowItems false | flowKeys false => 1
  | pairKey => 6
  | pairValue => 3

/-- The work that goals and tokens stand for. -/
def workload (tokens : List Token) (goals : List Goal) : Nat :=
  7 * tokens.length + total cost goals

theorem workload_nil (tokens : List Token) : workload tokens [] = 7 * tokens.length := rfl

theorem workload_cons (tokens : List Token) (goal : Goal) (goals : List Goal) :
    workload tokens (goal :: goals) = goal.cost + workload tokens goals := by
  simp only [workload, total_cons]
  omega

theorem length_read_le (tokens : List Token) :
    (Properties.read tokens).2.length +
      (if (Properties.read tokens).1 = ⟨none, none⟩ then 0 else 1) ≤ tokens.length := by
  unfold Properties.read
  split <;> simp

theorem workload_content? {inBlock loose : Bool} {anchor : Option (List Char)}
    {tag : Option Tag} {tokens : List Token} {e : Expansion}
    (expanded : content? inBlock loose anchor tag tokens = some e) :
    workload e.tokens e.goals <
      7 * tokens.length + 2 + (if anchor.isSome || tag.isSome then 1 else 0) := by
  have bare : ∀ {tokens : List Token}, content?.bare anchor tag tokens = some e →
      workload e.tokens e.goals <
        7 * tokens.length + 2 + (if anchor.isSome || tag.isSome then 1 else 0) := by
    intro tokens h
    unfold content?.bare at h
    split at h
    · cases h
      simp only [workload_nil]
      omega
    · cases h
  unfold content? at expanded
  split at expanded
  · split at expanded
    · cases expanded
      simp only [workload_cons, workload_nil, cost, List.length_cons]
      omega
    · exact bare expanded
  all_goals first
    | exact bare expanded
    | (cases expanded; simp only [workload_cons, workload_nil, cost, List.length_cons]; omega)
    | (split at expanded
       · cases expanded
         simp only [workload_cons, workload_nil, cost, List.length_cons]
         omega
       · exact bare expanded)

theorem workload_node? {handles : Handles} {inBlock loose : Bool} {tokens : List Token}
    {e : Expansion} (expanded : node? handles inBlock loose tokens = some e) :
    workload e.tokens e.goals < 7 * tokens.length + 2 := by
  unfold node? at expanded
  split at expanded
  · cases expanded
    simp only [workload_nil, List.length_cons]
    omega
  · have read := length_read_le tokens
    revert expanded read
    generalize Properties.read tokens = properties
    obtain ⟨⟨anchor, tag⟩, rest⟩ := properties
    intro expanded read
    simp only at expanded read
    split at expanded
    · have small := workload_content? expanded
      cases anchor <;> simp_all <;> omega
    · split at expanded
      · cases expanded
      · have small := workload_content? expanded
        simp at small read
        omega

theorem workload_nodeUnless (stops : List Token) (goal next : Goal) (tokens : List Token) :
    workload (nodeUnless stops goal next tokens).tokens (nodeUnless stops goal next tokens).goals ≤
      7 * tokens.length + goal.cost + next.cost := by
  unfold nodeUnless
  split <;> simp only [workload_cons, workload_nil, cost] <;> omega

theorem workload_valueUnless (stops : List Token) {goal : Goal} (next : Goal) (tokens : List Token)
    (small : goal.cost ≤ 7) :
    workload (valueUnless stops goal next tokens).tokens
      (valueUnless stops goal next tokens).goals ≤ 7 * tokens.length + next.cost := by
  unfold valueUnless
  split
  · rename_i rest
    have := workload_nodeUnless stops goal next rest
    simp only [List.length_cons]
    omega
  · simp only [workload_cons, workload_nil, cost]
    omega

theorem workload_blockItems? {tokens : List Token} {e : Expansion}
    (expanded : blockItems? tokens = some e) :
    workload e.tokens e.goals < 7 * tokens.length + 1 := by
  unfold blockItems? at expanded
  split at expanded <;> cases expanded
  · rename_i rest
    have := workload_nodeUnless [.blockEntry, .blockEnd] (.node true false) .blockItems rest
    simp only [cost, List.length_cons] at this ⊢
    omega
  · simp only [workload_nil, List.length_cons]
    omega

theorem workload_looseItem (tokens : List Token) :
    workload (looseItem tokens).tokens (looseItem tokens).goals < 7 * tokens.length + 1 := by
  unfold looseItem
  split
  · rename_i rest
    have := workload_nodeUnless [.blockEntry, .key, .value, .blockEnd] (.node true false)
      .looseItems rest
    simp only [cost, List.length_cons] at this ⊢
    omega
  · simp only [workload_nil]
    omega

theorem workload_blockKeys? {tokens : List Token} {e : Expansion}
    (expanded : blockKeys? tokens = some e) :
    workload e.tokens e.goals < 7 * tokens.length + 1 := by
  unfold blockKeys? at expanded
  split at expanded <;> cases expanded
  · rename_i rest
    have := workload_nodeUnless [.key, .value, .blockEnd] (.node true true) .blockValue rest
    simp only [cost, List.length_cons] at this ⊢
    omega
  · simp only [workload_nil, List.length_cons]
    omega

theorem workload_flowItem (tokens : List Token) :
    workload (flowItem tokens).tokens (flowItem tokens).goals ≤ 7 * tokens.length + 3 := by
  unfold flowItem
  split <;> simp only [workload_cons, workload_nil, cost, List.length_cons] <;> omega

theorem workload_flowItems? {first : Bool} {tokens : List Token} {e : Expansion}
    (expanded : flowItems? first tokens = some e) :
    workload e.tokens e.goals < 7 * tokens.length + (flowItems first).cost := by
  unfold flowItems? at expanded
  cases first
  · simp only [Bool.false_eq_true, if_false] at expanded
    split at expanded <;> cases expanded
    · simp only [workload_nil, cost, List.length_cons]
      omega
    · rename_i rest
      have := workload_flowItem rest
      simp only [List.length_cons]
      omega
  · simp only [if_true, Option.some.injEq] at expanded
    subst expanded
    have := workload_flowItem tokens
    simp only [cost]
    omega

theorem workload_flowKey (tokens : List Token) :
    workload (flowKey tokens).tokens (flowKey tokens).goals ≤ 7 * tokens.length + 4 := by
  unfold flowKey
  split
  · simp only [workload_nil, List.length_cons]
    omega
  · rename_i rest
    have := workload_nodeUnless [.value, .flowEntry, .flowMappingEnd] (.node false false)
      .flowValue rest
    simp only [cost, List.length_cons] at this ⊢
    omega
  · simp only [workload_cons, workload_nil, cost]
    omega

theorem workload_flowKeys? {first : Bool} {tokens : List Token} {e : Expansion}
    (expanded : flowKeys? first tokens = some e) :
    workload e.tokens e.goals < 7 * tokens.length + (flowKeys first).cost := by
  unfold flowKeys? at expanded
  cases first
  · simp only [Bool.false_eq_true, if_false] at expanded
    split at expanded <;> cases expanded
    · simp only [workload_nil, cost, List.length_cons]
      omega
    · rename_i rest
      have := workload_flowKey rest
      simp only [List.length_cons]
      omega
  · simp only [if_true, Option.some.injEq] at expanded
    subst expanded
    have := workload_flowKey tokens
    simp only [cost]
    omega

theorem workload_pairKeyOf (tokens : List Token) :
    workload (pairKeyOf tokens).tokens (pairKeyOf tokens).goals < 7 * tokens.length + 6 := by
  unfold pairKeyOf
  split
  · simp only [workload_cons, workload_nil, cost]
    omega
  · split <;> simp only [workload_cons, workload_nil, cost, List.length_cons] <;> omega

/-- An expansion leaves less work than the goal and its tokens stood for. -/
theorem workload_expand? {handles : Handles} {goal : Goal} {tokens : List Token} {e : Expansion}
    (expanded : goal.expand? handles tokens = some e) :
    workload e.tokens e.goals < workload tokens [goal] := by
  have start : workload tokens [goal] = 7 * tokens.length + goal.cost := by
    simp only [workload_cons, workload_nil]
    omega
  have value : ∀ stops {inner next : Goal}, inner.cost ≤ 7 → next.cost < goal.cost →
      valueUnless stops inner next tokens = e →
      workload e.tokens e.goals < 7 * tokens.length + goal.cost := by
    intro stops inner next small less is
    have := workload_valueUnless stops next tokens small
    rw [is] at this
    omega
  rw [start]
  cases goal with
  | node inBlock loose => exact workload_node? expanded
  | blockItems => exact workload_blockItems? expanded
  | blockKeys => exact workload_blockKeys? expanded
  | flowItems first => exact workload_flowItems? expanded
  | flowKeys first => exact workload_flowKeys? expanded
  | looseItems => exact Option.some.inj expanded ▸ workload_looseItem tokens
  | pairKey => exact Option.some.inj expanded ▸ workload_pairKeyOf tokens
  | blockValue | flowValue | pairValue =>
    exact value _ (by simp [cost]) (by simp [cost]) (Option.some.inj expanded)
  | noValue | pairEnd =>
    cases expanded
    simp only [workload_cons, workload_nil, cost]
    omega

/-- Expand goals one after the other; give all events and the tokens left. -/
def fulfil? (handles : Handles) (tokens : List Token) :
    List Goal → Option (List (Event (List Char)) × List Token)
  | [] => some ([], tokens)
  | goal :: goals =>
    match _expanded : goal.expand? handles tokens with
    | none => none
    | some e => (fulfil? handles e.tokens (e.goals ++ goals)).map fun r => (e.events ++ r.1, r.2)
termination_by goals => workload tokens goals
decreasing_by
  have less := workload_expand? _expanded
  simp only [workload, total_append, total_cons, total_nil] at less ⊢
  omega

end Goal

/-! ## Documents -/

/-- Read directives: at most one version, which is 1.1 or 1.2, and at most one
meaning for each handle. -/
def directives? (versioned : Bool) (handles : Handles) :
    List Token → Option (Handles × List Token)
  | .version major minor :: rest =>
    if !versioned && major = 1 && (minor = 1 || minor = 2) then directives? true handles rest
    else none
  | .tagHandle handle meaning :: rest =>
    if (handles.lookup handle).isSome then none
    else directives? versioned (handles ++ [(handle, meaning)]) rest
  | tokens => some (handles, tokens)

/-- Whether a token belongs between documents. -/
def isBetweenDocuments : Token → Bool
  | .version .. | .tagHandle .. | .documentStart | .documentEnd => true
  | _ => false

/-- The events of a document behind its start marker. -/
def content? (handles : Handles) (tokens : List Token) :
    Option (List (Event (List Char)) × List Token) :=
  if tokens.head?.all isBetweenDocuments then some ([.missing], tokens)
  else Goal.fulfil? handles tokens [.node true false]

/-- The events of a document. A document with directives has a start marker. -/
def document? (tokens : List Token) : Option (List (Event (List Char)) × List Token) :=
  match tokens with
  | .version .. :: _ | .tagHandle .. :: _ | .documentStart :: _ => do
    let (handles, tokens) ← directives? false [] tokens
    match tokens with
    | .documentStart :: rest => content? (handles ++ Handles.standard) rest
    | _ => none
  | _ => Goal.fulfil? Handles.standard tokens [.node true false]

/-- The events of a text that holds at most one document; none if it holds none. -/
def events? (tokens : List Token) : Option (List (Event (List Char))) :=
  if tokens.isEmpty then some []
  else do
    let (events, rest) ← document? tokens
    if rest.all (· == .documentEnd) then return events else none

end Switchboard.Yaml
