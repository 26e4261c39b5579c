/-!
# Dictionaries

A dictionary holds pairs of a key and a value, no two with the same key, in the
order in which the keys were first put. Replacing a value leaves its place. Every
operation is described by what it does to look-ups (`get?_put`, `get?_erase`,
`get?_filterKeys`) and to the list of keys. A dictionary is made of its pairs
(`ofPairs_pairs`), and look-ups do not see their order (`get?_of_perm`).
-/

namespace Switchboard

/-- Pairs of keys and values with no key twice. -/
structure Dictionary (κ : Type) (α : Type) where
  pairs : List (κ × α)
  distinct : (pairs.map Prod.fst).Nodup

namespace Dictionary

variable {κ α : Type} [DecidableEq κ]

/-- The dictionary without entries. -/
def empty : Dictionary κ α where
  pairs := []
  distinct := by simp

instance : Inhabited (Dictionary κ α) := ⟨empty⟩

instance : EmptyCollection (Dictionary κ α) := ⟨empty⟩

instance [DecidableEq α] : DecidableEq (Dictionary κ α) := fun d e =>
  decidable_of_iff (d.pairs = e.pairs) (by cases d; cases e; simp)

/-- The keys, in order. -/
def keys (d : Dictionary κ α) : List κ := d.pairs.map Prod.fst

/-- The values, in the order of their keys. -/
def values (d : Dictionary κ α) : List α := d.pairs.map Prod.snd

/-- How many entries there are. -/
def size (d : Dictionary κ α) : Nat := d.pairs.length

/-- Whether there are no entries. -/
def isEmpty (d : Dictionary κ α) : Bool := d.pairs.isEmpty

/-- The value under a key. -/
def get? (d : Dictionary κ α) (key : κ) : Option α :=
  (d.pairs.find? (·.1 == key)).map Prod.snd

/-- Whether there is a value under a key. -/
def contains (d : Dictionary κ α) (key : κ) : Bool :=
  d.pairs.any (·.1 == key)

/-- Replace the value of the pair with this key, or append a new pair. -/
def putPair (key : κ) (value : α) : List (κ × α) → List (κ × α)
  | [] => [(key, value)]
  | pair :: rest =>
    if pair.1 = key then (key, value) :: rest else pair :: putPair key value rest

theorem map_fst_putPair (key : κ) (value : α) (pairs : List (κ × α)) :
    (putPair key value pairs).map Prod.fst =
      if key ∈ pairs.map Prod.fst then pairs.map Prod.fst else pairs.map Prod.fst ++ [key] := by
  induction pairs with
  | nil => rfl
  | cons pair rest ih =>
    unfold putPair
    by_cases same : pair.1 = key
    · simp [same]
    · have other : ¬ key = pair.1 := fun h => same h.symm
      simp only [same, if_false, List.map_cons, ih, List.mem_cons, other, false_or]
      split <;> rfl

/-- Put a value under a key, in the place of the old value if there is one. -/
def put (d : Dictionary κ α) (key : κ) (value : α) : Dictionary κ α where
  pairs := putPair key value d.pairs
  distinct := by
    rw [map_fst_putPair]
    split
    · exact d.distinct
    · rename_i absent
      rw [List.nodup_append]
      refine ⟨d.distinct, by simp, ?_⟩
      intro a mem b last
      simp only [List.mem_singleton] at last
      subst last
      intro same
      exact absent (same ▸ mem)

/-- Keep the entries whose keys satisfy a test. -/
def filterKeys (d : Dictionary κ α) (keep : κ → Bool) : Dictionary κ α where
  pairs := d.pairs.filter (keep ·.1)
  distinct := (d.distinct.sublist (List.filter_sublist.map Prod.fst))

/-- Drop the entry under a key. -/
def erase (d : Dictionary κ α) (key : κ) : Dictionary κ α :=
  d.filterKeys (· ≠ key)

/-- Change every value, and keep the entries for which there is a new value. -/
def filterMapValues (d : Dictionary κ α) (change : κ → α → Option α) : Dictionary κ α where
  pairs := d.pairs.filterMap fun pair => (change pair.1 pair.2).map (pair.1, ·)
  distinct := by
    have sub : ∀ pairs : List (κ × α),
        ((pairs.filterMap fun pair => (change pair.1 pair.2).map (pair.1, ·)).map
          Prod.fst).Sublist (pairs.map Prod.fst) := by
      intro pairs
      induction pairs with
      | nil => simp
      | cons pair rest ih =>
        cases new : change pair.1 pair.2 with
        | none => simpa [new] using ih.cons pair.1
        | some value => simpa [new] using ih.cons_cons pair.1
    exact d.distinct.sublist (sub d.pairs)

/-- The dictionary of some pairs; of two pairs with one key the later counts. -/
def ofPairs (pairs : List (κ × α)) : Dictionary κ α :=
  pairs.foldl (fun d pair => d.put pair.1 pair.2) empty

/-! ## Looking up -/

theorem get?_eq_some_iff {d : Dictionary κ α} {key : κ} {value : α} :
    d.get? key = some value ↔ (key, value) ∈ d.pairs := by
  obtain ⟨pairs, distinct⟩ := d
  simp only [get?, Option.map_eq_some_iff]
  induction pairs with
  | nil => simp
  | cons pair rest ih =>
    have apart := List.nodup_cons.mp distinct
    by_cases same : pair.1 = key
    · subst same
      simp only [List.find?_cons, beq_self_eq_true, List.mem_cons]
      constructor
      · rintro ⟨found, first, rfl⟩
        exact .inl (by rw [← Option.some.inj first])
      · rintro (here | later)
        · exact ⟨pair, rfl, by rw [← here]⟩
        · exact absurd (List.mem_map_of_mem later) apart.1
    · have skip : (pair.1 == key) = false := by simpa using same
      rw [List.find?_cons, skip, List.mem_cons]
      have elsewhere : ¬ (key, value) = pair := fun h => same (by rw [← h])
      simpa [elsewhere] using ih apart.2

theorem get?_eq_none_iff {d : Dictionary κ α} {key : κ} :
    d.get? key = none ↔ key ∉ d.keys := by
  simp only [get?, keys, Option.map_eq_none_iff, List.find?_eq_none, beq_iff_eq, List.mem_map,
    not_exists, not_and]

theorem contains_eq_isSome (d : Dictionary κ α) (key : κ) :
    d.contains key = (d.get? key).isSome := by
  rw [contains, get?, Option.isSome_map, Bool.eq_iff_iff, List.find?_isSome, List.any_eq_true]

theorem mem_keys_iff {d : Dictionary κ α} {key : κ} :
    key ∈ d.keys ↔ ∃ value, d.get? key = some value := by
  rw [← Option.ne_none_iff_exists', ne_eq, get?_eq_none_iff, Classical.not_not]

theorem mem_values_iff {d : Dictionary κ α} {value : α} :
    value ∈ d.values ↔ ∃ key, d.get? key = some value := by
  rw [values, List.mem_map]
  constructor
  · rintro ⟨pair, mem, rfl⟩
    exact ⟨pair.1, get?_eq_some_iff.mpr mem⟩
  · rintro ⟨key, found⟩
    exact ⟨(key, value), get?_eq_some_iff.mp found, rfl⟩

theorem isEmpty_iff {d : Dictionary κ α} : d.isEmpty = true ↔ ∀ key, d.get? key = none := by
  rw [isEmpty, List.isEmpty_iff]
  constructor
  · intro nothing key
    rw [get?, nothing]
    rfl
  · intro absent
    refine List.eq_nil_iff_forall_not_mem.mpr fun pair mem => ?_
    exact get?_eq_none_iff.mp (absent pair.1) (List.mem_map_of_mem mem)

@[simp] theorem get?_empty (key : κ) : (empty : Dictionary κ α).get? key = none := rfl

theorem find?_putPair (key other : κ) (value : α) (pairs : List (κ × α)) :
    ((putPair key value pairs).find? (·.1 == other)).map Prod.snd =
      if key = other then some value else (pairs.find? (·.1 == other)).map Prod.snd := by
  induction pairs with
  | nil => by_cases same : key = other <;> simp [putPair, same]
  | cons pair rest ih =>
    unfold putPair
    by_cases here : pair.1 = key
    · by_cases same : key = other <;> simp [here, same]
    · by_cases there : pair.1 = other
      · have apart : ¬ key = other := fun h => here (there.trans h.symm)
        have first : (pair.1 == other) = true := by simpa using there
        rw [if_neg here, if_neg apart, List.find?_cons, List.find?_cons, first]
      · have skip : (pair.1 == other) = false := by simpa using there
        simp only [here, if_false, List.find?_cons, skip, ih]

/-- What a put does to the pairs that pass a test of their keys. -/
theorem filter_putPair (keep : κ → Bool) (key : κ) (value : α) (pairs : List (κ × α)) :
    (putPair key value pairs).filter (keep ·.1) =
      if keep key then putPair key value (pairs.filter (keep ·.1))
      else pairs.filter (keep ·.1) := by
  induction pairs with
  | nil => exact List.filter_cons
  | cons pair rest ih =>
    rw [putPair]
    by_cases here : pair.1 = key
    · subst here
      rw [if_pos rfl, List.filter_cons, List.filter_cons]
      by_cases kept : keep pair.1 = true
      · rw [if_pos kept, if_pos kept, if_pos kept, putPair, if_pos rfl]
      · rw [if_neg kept, if_neg kept, if_neg kept]
    · rw [if_neg here, List.filter_cons, List.filter_cons, ih]
      by_cases kept : keep pair.1 = true
      · rw [if_pos kept, if_pos kept, putPair, if_neg here]
        split <;> rfl
      · rw [if_neg kept, if_neg kept]

/-- After a put, the key has the new value and every other key what it had. -/
@[simp] theorem get?_put (d : Dictionary κ α) (key other : κ) (value : α) :
    (d.put key value).get? other = if key = other then some value else d.get? other :=
  find?_putPair key other value d.pairs

/-- Filtering keeps the values of the keys that pass and loses the rest. -/
@[simp] theorem get?_filterKeys (d : Dictionary κ α) (keep : κ → Bool) (key : κ) :
    (d.filterKeys keep).get? key = if keep key then d.get? key else none := by
  apply Option.ext
  intro value
  rw [get?_eq_some_iff]
  by_cases passes : keep key = true
  · simp [filterKeys, passes, get?_eq_some_iff]
  · simp [filterKeys, passes]

omit [DecidableEq κ] in
/-- It does not matter which of two tests comes first. -/
theorem filterKeys_comm (d : Dictionary κ α) (keep keep' : κ → Bool) :
    (d.filterKeys keep).filterKeys keep' = (d.filterKeys keep').filterKeys keep := by
  simp only [filterKeys, List.filter_filter, Bool.and_comm]

/-- After an erasure the key has no value, and every other key what it had. -/
@[simp] theorem get?_erase (d : Dictionary κ α) (key other : κ) :
    (d.erase key).get? other = if other = key then none else d.get? other := by
  rw [erase, get?_filterKeys]
  by_cases same : other = key <;> simp [same]

omit [DecidableEq κ] in
theorem mem_pairs_filterMapValues {d : Dictionary κ α} {change : κ → α → Option α} {key : κ}
    {value : α} :
    (key, value) ∈ (d.filterMapValues change).pairs ↔
      ∃ old, (key, old) ∈ d.pairs ∧ change key old = some value := by
  simp only [filterMapValues, List.mem_filterMap, Option.map_eq_some_iff, Prod.mk.injEq]
  constructor
  · rintro ⟨pair, mem, new, changed, rfl, rfl⟩
    exact ⟨pair.2, mem, changed⟩
  · rintro ⟨old, mem, changed⟩
    exact ⟨(key, old), mem, value, changed, rfl, rfl⟩

/-- Changing values acts on the value under each key by itself. -/
@[simp] theorem get?_filterMapValues (d : Dictionary κ α) (change : κ → α → Option α) (key : κ) :
    (d.filterMapValues change).get? key = (d.get? key).bind (change key) := by
  apply Option.ext
  intro value
  rw [get?_eq_some_iff, mem_pairs_filterMapValues, Option.bind_eq_some_iff]
  simp only [get?_eq_some_iff]

/-- It does not matter in which order the entries are. -/
theorem get?_of_perm {d e : Dictionary κ α} (same : d.pairs.Perm e.pairs) (key : κ) :
    d.get? key = e.get? key := by
  apply Option.ext
  intro value
  rw [get?_eq_some_iff, get?_eq_some_iff, same.mem_iff]

/-! ## Filling a dictionary -/

omit [DecidableEq κ] in
/-- Dictionaries with the same pairs are the same. -/
theorem ext {d e : Dictionary κ α} (same : d.pairs = e.pairs) : d = e := by
  cases d
  cases e
  cases same
  rfl

/-- A pair with a new key is put behind all others. -/
theorem putPair_of_not_mem {key : κ} {pairs : List (κ × α)}
    (absent : key ∉ pairs.map Prod.fst) (value : α) :
    putPair key value pairs = pairs ++ [(key, value)] := by
  induction pairs with
  | nil => rfl
  | cons pair rest ih =>
    rw [List.map_cons, List.mem_cons, not_or] at absent
    rw [putPair, if_neg (fun same => absent.1 same.symm), ih absent.2]
    rfl

theorem pairs_foldl_put {pairs : List (κ × α)} {d : Dictionary κ α}
    (apart : ((d.pairs ++ pairs).map Prod.fst).Nodup) :
    (pairs.foldl (fun d pair => d.put pair.1 pair.2) d).pairs = d.pairs ++ pairs := by
  induction pairs generalizing d with
  | nil => exact (List.append_nil _).symm
  | cons pair rest ih =>
    have absent : pair.1 ∉ d.pairs.map Prod.fst := by
      intro present
      rw [List.map_append, List.nodup_append] at apart
      exact apart.2.2 _ present _ List.mem_cons_self rfl
    have next : (d.put pair.1 pair.2).pairs ++ rest = d.pairs ++ pair :: rest := by
      show putPair pair.1 pair.2 d.pairs ++ rest = _
      rw [putPair_of_not_mem absent, List.append_assoc]
      rfl
    rw [List.foldl_cons, ih (by rwa [next]), next]

/-- Pairs with different keys stay as they are, and in their order. -/
theorem pairs_ofPairs {pairs : List (κ × α)} (distinct : (pairs.map Prod.fst).Nodup) :
    (ofPairs pairs).pairs = pairs :=
  pairs_foldl_put distinct

/-- A dictionary is made of its pairs. -/
theorem ofPairs_pairs (d : Dictionary κ α) : ofPairs d.pairs = d :=
  ext (pairs_ofPairs d.distinct)

end Dictionary

end Switchboard
