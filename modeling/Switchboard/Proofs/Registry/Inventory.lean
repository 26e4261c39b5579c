import Switchboard.Proofs.Registry.Ledger
import Switchboard.Proofs.Registry.Shelf

/-!
# The inventory of a registry

A registry lists what an owner has, counts it, names the owners and finds objects by their number,
and it computes these answers from different parts of its state: from the buckets, from the slots in
one bucket, from the keys, and from the homes. They tell one story (`Registry.inventory_agrees`):

* **the listing of a bucket** — a bucket is listed as its indices from zero on
  (`Bucket.mem_listing`), and no two places of all listings are level, if type names tell the
  contracts apart (`Registry.Coherent.entry_ext`);
* **one order** — so there is one way only to put the entries of an owner in order
  (`Registry.Coherent.entries_unique`). It is listing behind listing, with the buckets in the order
  of their contracts (`Registry.Coherent.entries_eq`), whatever order they were created in;
* **sizes** — the listings of an owner are as long as its buckets are large, and all of them
  together as there are homes (`Registry.Coherent.size_eq_total_entries`).
-/

namespace Switchboard

/-! ## The order of entries -/

namespace Entry

/-- Whether one entry goes strictly before another: the names of their contracts decide, then the
type names, then the indices. -/
def Before (a b : Entry) : Prop :=
  Text.bytes a.contract.name < Text.bytes b.contract.name ∨
  a.contract.name = b.contract.name ∧
    (Text.bytes a.contract.id.typeName < Text.bytes b.contract.id.typeName ∨
      a.contract.id.typeName = b.contract.id.typeName ∧ a.index < b.index)

/-- Whether neither of two entries goes before the other. -/
def Level (a b : Entry) : Prop :=
  a.contract.name = b.contract.name ∧ a.contract.id.typeName = b.contract.id.typeName ∧
    a.index = b.index

variable {a b : Entry}

theorem precedes_iff : a.precedes b = true ↔ a.Before b ∨ a.Level b := by
  unfold precedes Before Level
  by_cases names : a.contract.name = b.contract.name
  · by_cases types : a.contract.id.typeName = b.contract.id.typeName
    · simp [names, types, UInt32.le_iff_lt_or_eq, List.lt_irrefl]
    · simp [names, types, Text.precedes_iff_lt_or_eq, List.lt_irrefl]
  · simp [names, Text.precedes_iff_lt_or_eq]

theorem precedes_trans {c : Entry} (first : a.precedes b = true) (second : b.precedes c = true) :
    a.precedes c = true := by
  unfold precedes at *
  grind [Text.precedes_trans, Text.precedes_antisymm]

theorem precedes_total (a b : Entry) : a.precedes b = true ∨ b.precedes a = true := by
  unfold precedes
  grind [Text.precedes_total]

theorem level_of_precedes (first : a.precedes b = true) (second : b.precedes a = true) :
    a.Level b := by
  unfold precedes at *
  unfold Level
  grind [Text.precedes_antisymm]

theorem Before.ne (before : a.Before b) : a ≠ b := by
  rintro rfl
  simp [Before, List.lt_irrefl] at before

/-- Where type names differ, indices do not matter. -/
theorem before_of_precedes {owner owner' : ComponentId} {i j : UInt32}
    (before : precedes ⟨owner, a.contract, i⟩ ⟨owner', b.contract, j⟩ = true)
    (apart : a.contract.id.typeName ≠ b.contract.id.typeName) : a.Before b := by
  rcases precedes_iff.mp before with (name | ⟨name, type | ⟨level, -⟩⟩) | ⟨-, level, -⟩
  · exact .inl name
  · exact .inr ⟨name, .inl type⟩
  · exact absurd level apart
  · exact absurd level apart

end Entry

/-! ## The listing of a bucket -/

namespace Bucket

variable {owner : ComponentId} {bucket : Bucket}

/-- What a bucket adds to the entries of its owner. -/
def listing (owner : ComponentId) (bucket : Bucket) : List Entry :=
  (List.range bucket.next.toNat).map fun index => ⟨owner, bucket.contract, .ofNat index⟩

theorem mem_listing {e : Entry} : e ∈ bucket.listing owner ↔
    e.owner = owner ∧ e.contract = bucket.contract ∧ e.index < bucket.next := by
  simp only [listing, List.mem_map, List.mem_range, UInt32.lt_iff_toNat_lt]
  constructor
  · rintro ⟨index, below, rfl⟩
    have small : index < UInt32.size := Nat.lt_trans below bucket.next.toNat_lt
    simp [UInt32.toNat_ofNat_of_lt' small, below]
  · rintro ⟨rfl, same, below⟩
    refine ⟨e.index.toNat, below, ?_⟩
    rw [UInt32.ofNat_toNat, ← same]

/-- Whether one bucket is listed before another, or may be: the first entries decide. -/
def precedes (first second : Bucket) : Bool :=
  Entry.precedes ⟨default, first.contract, 0⟩ ⟨default, second.contract, 0⟩

/-- A bucket is listed in the order of its indices. -/
theorem listing_ascending (owner : ComponentId) (bucket : Bucket) :
    (bucket.listing owner).Pairwise Entry.Before := by
  rw [listing, List.pairwise_map]
  refine List.pairwise_lt_range.imp_of_mem ?_
  intro i j first second less
  simp only [List.mem_range] at first second
  have bound : bucket.next.toNat < UInt32.size := bucket.next.toNat_lt
  refine .inr ⟨rfl, .inr ⟨rfl, ?_⟩⟩
  rw [UInt32.lt_iff_toNat_lt, UInt32.toNat_ofNat_of_lt' (by omega),
    UInt32.toNat_ofNat_of_lt' (by omega)]
  exact less

/-- Indices have room for as many objects as there are numbers of thirty-two bits. -/
theorem toNat_next (few : bucket.size < UInt32.size) : bucket.next.toNat = bucket.size :=
  UInt32.toNat_ofNat_of_lt' few

theorem lt_next_iff {index : UInt32} (few : bucket.size < UInt32.size) :
    index < bucket.next ↔ index.toNat < bucket.size := by
  rw [UInt32.lt_iff_toNat_lt, toNat_next few]

theorem length_listing (owner : ComponentId) (few : bucket.size < UInt32.size) :
    (bucket.listing owner).length = bucket.size := by
  rw [listing, List.length_map, List.length_range, toNat_next few]

end Bucket

namespace Registry

variable {r r' : Registry} {owner : ComponentId}

/-- Contracts under which something is registered are told apart by their type names. -/
def NamedApart (r : Registry) : Prop :=
  ∀ key ∈ r.buckets.keys, ∀ other ∈ r.buckets.keys,
    key.contract.typeName = other.contract.typeName → key.contract = other.contract

/-! ## Entries -/

theorem nodup_shelf (r : Registry) (owner : ComponentId) :
    ((r.shelf owner).map Prod.fst).Nodup :=
  r.buckets.distinct.sublist (List.filter_sublist.map _)

/-- An entry is an entry of one of the buckets on the shelf. -/
theorem entries_perm (r : Registry) (owner : ComponentId) :
    (r.entries owner).Perm ((r.shelf owner).flatMap fun pair => pair.2.listing owner) :=
  List.mergeSort_perm ..

theorem entries_ascending (r : Registry) (owner : ComponentId) :
    (r.entries owner).Pairwise fun a b => a.precedes b = true := by
  refine List.pairwise_mergeSort ?_ ?_ _
  · intro a b c first second
    exact Entry.precedes_trans first second
  · intro a b
    rw [Bool.or_eq_true]
    exact Entry.precedes_total a b

/-- A bucket on the shelf of an owner is in the place of its own contract. -/
theorem Coherent.shelved (coherent : r.Coherent) {key : BucketKey} {bucket : Bucket}
    (member : (key, bucket) ∈ r.shelf owner) : key = ⟨owner, bucket.contract.id⟩ ∧
      r.buckets.get? ⟨owner, bucket.contract.id⟩ = some bucket := by
  have own : key.owner = owner := beq_iff_eq.mp (List.mem_filter.mp member).2
  subst own
  have found := mem_shelf.mp member
  rw [(coherent.proper key bucket found).identity]
  exact ⟨rfl, found⟩

theorem Coherent.mem_entries (coherent : r.Coherent) {e : Entry} : e ∈ r.entries owner ↔
    e.owner = owner ∧ ∃ bucket, r.buckets.get? ⟨owner, e.contract.id⟩ = some bucket ∧
      e.contract = bucket.contract ∧ e.index < bucket.next := by
  simp only [(r.entries_perm owner).mem_iff, List.mem_flatMap, Bucket.mem_listing]
  constructor
  · rintro ⟨⟨key, bucket⟩, member, own, same, below⟩
    refine ⟨own, bucket, ?_, same, below⟩
    rw [same]
    exact (coherent.shelved member).2
  · rintro ⟨own, bucket, found, same, below⟩
    exact ⟨⟨⟨owner, e.contract.id⟩, bucket⟩, mem_shelf.mpr found, own, same, below⟩

theorem NamedApart.ids_eq (named : r.NamedApart) {key key' : BucketKey} {bucket bucket' : Bucket}
    (found : r.buckets.get? key = some bucket) (found' : r.buckets.get? key' = some bucket')
    (types : key.contract.typeName = key'.contract.typeName) : key.contract = key'.contract :=
  named key (Dictionary.mem_keys_iff.mpr ⟨_, found⟩) key' (Dictionary.mem_keys_iff.mpr ⟨_, found'⟩)
    types

/-- No two entries of an owner are level. -/
theorem Coherent.entry_ext (coherent : r.Coherent) (named : r.NamedApart) {a b : Entry}
    (first : a ∈ r.entries owner) (second : b ∈ r.entries owner) (level : a.Level b) : a = b := by
  obtain ⟨own, bucket, found, same, -⟩ := coherent.mem_entries.mp first
  obtain ⟨own', bucket', found', same', -⟩ := coherent.mem_entries.mp second
  obtain ⟨-, types, indices⟩ := level
  have ids : a.contract.id = b.contract.id := named.ids_eq found found' types
  rw [ids, found'] at found
  have contracts : a.contract = b.contract := by
    rw [same, same', Option.some.inj found]
  cases a
  cases b
  simp_all

/-- There is one way only to put the entries of an owner in order. -/
theorem Coherent.entries_unique (coherent : r.Coherent) (named : r.NamedApart) {l : List Entry}
    (perm : l.Perm (r.entries owner)) (ordered : l.Pairwise fun a b => a.precedes b = true) :
    l = r.entries owner := by
  refine List.Perm.eq_of_pairwise ?_ ordered (r.entries_ascending owner) perm
  intro a b first second before after
  exact coherent.entry_ext named (perm.mem_iff.mp first) second
    (Entry.level_of_precedes before after)

/-- Registries with the same buckets of an owner have them on the shelf, in some order. -/
theorem shelf_perm (same : ∀ key, key.owner = owner → r'.buckets.get? key = r.buckets.get? key) :
    (r'.shelf owner).Perm (r.shelf owner) := by
  have distinct (r : Registry) : (r.shelf owner).Nodup :=
    List.Pairwise.of_map Prod.fst (fun _ _ other same => other (congrArg Prod.fst same))
      (r.nodup_shelf owner)
  apply (List.perm_ext_iff_of_nodup (distinct r') (distinct r)).mpr
  rintro ⟨key, bucket⟩
  by_cases own : key.owner = owner
  · have agree := same key own
    subst own
    rw [mem_shelf, mem_shelf, agree]
  · simp [shelf, own]

/-- The entries of an owner do not depend on the order of its buckets. -/
theorem Coherent.entries_of_same (coherent : r.Coherent) (named : r.NamedApart)
    (same : ∀ key, key.owner = owner → r'.buckets.get? key = r.buckets.get? key) :
    r'.entries owner = r.entries owner := by
  have listed := (shelf_perm same).flatMap_right fun pair => pair.2.listing owner
  exact coherent.entries_unique named
    (((r'.entries_perm owner).trans listed).trans (r.entries_perm owner).symm)
    (r'.entries_ascending owner)

/-- No two buckets on a shelf are for contracts of one type name. -/
theorem Coherent.types_apart (coherent : r.Coherent) (named : r.NamedApart)
    {key key' : BucketKey} {bucket bucket' : Bucket} (first : (key, bucket) ∈ r.shelf owner)
    (second : (key', bucket') ∈ r.shelf owner) (apart : key ≠ key') :
    bucket.contract.id.typeName ≠ bucket'.contract.id.typeName := by
  obtain ⟨rfl, found⟩ := coherent.shelved first
  obtain ⟨rfl, found'⟩ := coherent.shelved second
  intro types
  exact apart (congrArg _ (named.ids_eq found found' types))

/-- The buckets of an owner in the order in which they are listed. -/
def blocks (r : Registry) (owner : ComponentId) : List (BucketKey × Bucket) :=
  (r.shelf owner).mergeSort fun first second => first.2.precedes second.2

theorem blocks_perm (r : Registry) (owner : ComponentId) : (r.blocks owner).Perm (r.shelf owner) :=
  List.mergeSort_perm ..

theorem blocks_ascending (r : Registry) (owner : ComponentId) :
    (r.blocks owner).Pairwise fun first second => first.2.precedes second.2 = true := by
  refine List.pairwise_mergeSort ?_ ?_ _
  · intro p q u first second
    exact Entry.precedes_trans first second
  · intro p q
    rw [Bool.or_eq_true]
    exact Entry.precedes_total _ _

/-- Every entry of a block goes before every entry of a later one. -/
theorem Coherent.listings_ascending (coherent : r.Coherent) (named : r.NamedApart)
    (owner : ComponentId) :
    ((r.blocks owner).flatMap fun pair => pair.2.listing owner).Pairwise Entry.Before := by
  have distinct : (r.blocks owner).Pairwise fun first second => first.1 ≠ second.1 :=
    List.pairwise_map.mp
      (((r.blocks_perm owner).map Prod.fst).nodup_iff.mpr (r.nodup_shelf owner))
  rw [List.pairwise_flatMap]
  refine ⟨fun pair _ => pair.2.listing_ascending owner, ?_⟩
  refine ((r.blocks_ascending owner).and distinct).imp_of_mem ?_
  rintro ⟨key, bucket⟩ ⟨key', bucket'⟩ first second ⟨ordered, apart⟩ a listed b listed'
  have types := coherent.types_apart named ((r.blocks_perm owner).mem_iff.mp first)
    ((r.blocks_perm owner).mem_iff.mp second) apart
  obtain ⟨-, same, -⟩ := Bucket.mem_listing.mp listed
  obtain ⟨-, same', -⟩ := Bucket.mem_listing.mp listed'
  rw [← same, ← same'] at types
  rw [Bucket.precedes, ← same, ← same'] at ordered
  exact Entry.before_of_precedes ordered types

/-- The entries of an owner are the listings of its buckets, one behind the other. -/
theorem Coherent.entries_eq (coherent : r.Coherent) (named : r.NamedApart) (owner : ComponentId) :
    r.entries owner = (r.blocks owner).flatMap fun pair => pair.2.listing owner := by
  have perm := ((r.blocks_perm owner).flatMap_right _).trans (r.entries_perm owner).symm
  have ordered := (coherent.listings_ascending named owner).imp fun before =>
    Entry.precedes_iff.mpr (.inl before)
  exact (coherent.entries_unique named perm ordered).symm

theorem Coherent.entries_strictly_ascending (coherent : r.Coherent) (named : r.NamedApart)
    (owner : ComponentId) : (r.entries owner).Pairwise Entry.Before := by
  rw [coherent.entries_eq named]
  exact coherent.listings_ascending named owner

/-! ## Sizes -/

/-- The entries of one contract stand side by side, in the order of their indices. -/
theorem Coherent.entries_split (coherent : r.Coherent) (named : r.NamedApart)
    (few : ∀ owner c, r.bucketSize owner c < UInt32.size) (owner : ComponentId) (c : Contract) :
    ∃ d before after, d.id = c.id ∧
      r.entries owner = before ++ (List.range (r.bucketSize owner c)).map
        (fun index => ⟨owner, d, .ofNat index⟩) ++ after ∧
      ∀ e ∈ before ++ after, e.contract.id ≠ c.id := by
  have entries := coherent.entries_eq named owner
  have perm := r.blocks_perm owner
  cases found : r.buckets.get? ⟨owner, c.id⟩ with
  | none =>
      -- There is no entry of the contract at all.
      refine ⟨c, r.entries owner, [], rfl, by simp [bucketSize_of_absent found], ?_⟩
      intro e member same
      obtain ⟨-, bucket, found', -⟩ := coherent.mem_entries.mp (List.append_nil _ ▸ member)
      rw [same, found] at found'
      cases found'
  | some bucket =>
      have size := bucketSize_of_found found
      have next : bucket.next.toNat = bucket.size := Bucket.toNat_next (size ▸ few owner c)
      have placed : (⟨owner, c.id⟩, bucket) ∈ r.blocks owner :=
        perm.mem_iff.mpr (mem_shelf.mpr found)
      obtain ⟨before, after, split⟩ := List.append_of_mem placed
      rw [split] at entries perm
      have apart := (((List.perm_middle.symm.trans perm).map Prod.fst).nodup_iff.mpr
        (r.nodup_shelf owner))
      have identity := (coherent.proper _ bucket found).identity
      refine ⟨bucket.contract, before.flatMap fun pair => pair.2.listing owner,
        after.flatMap fun pair => pair.2.listing owner, identity, ?_, ?_⟩
      · rw [entries, List.flatMap_append, List.flatMap_cons, size, ← next, List.append_assoc]
        rfl
      · -- An entry of the contract in another listing would put that bucket in the same place.
        intro e member same
        rw [← List.flatMap_append, List.mem_flatMap] at member
        obtain ⟨⟨key, other⟩, elsewhere, listed⟩ := member
        have shelved := coherent.shelved
          (perm.mem_iff.mp (List.perm_middle.mem_iff.mpr (List.mem_cons_of_mem _ elsewhere)))
        have contract := (Bucket.mem_listing.mp listed).2.1
        rw [← contract, same] at shelved
        apply (List.nodup_cons.mp apart).1
        rw [← shelved.1]
        exact List.mem_map.mpr ⟨_, elsewhere, rfl⟩

/-- The entries of an owner are as many as the objects in its buckets. -/
theorem length_entries (few : ∀ pair ∈ r.shelf owner, pair.2.size < UInt32.size) :
    (r.entries owner).length = total (fun pair => pair.2.size) (r.shelf owner) := by
  rw [(r.entries_perm owner).length_eq]
  generalize r.shelf owner = shelf at few
  induction shelf with
  | nil => rfl
  | cons pair rest ih =>
      simp only [List.forall_mem_cons] at few
      rw [List.flatMap_cons, List.length_append, total_cons, ih few.2,
        Bucket.length_listing owner few.1]

/-- Every bucket on a shelf has an index for each of its objects. -/
theorem Coherent.size_lt (coherent : r.Coherent)
    (few : ∀ owner c, r.bucketSize owner c < UInt32.size) {key : BucketKey} {bucket : Bucket}
    (member : (key, bucket) ∈ r.shelf owner) : bucket.size < UInt32.size := by
  have found := (coherent.shelved member).2
  exact bucketSize_of_found found ▸ few owner bucket.contract

theorem mem_owners : owner ∈ r.owners ↔ ∃ bucket c, r.buckets.get? ⟨owner, c⟩ = some bucket := by
  rw [owners, ComponentId.mem_sorted, List.mem_eraseDups, List.mem_map]
  constructor
  · rintro ⟨⟨owner, c⟩, member, rfl⟩
    obtain ⟨bucket, found⟩ := Dictionary.mem_keys_iff.mp member
    exact ⟨bucket, c, found⟩
  · rintro ⟨bucket, c, found⟩
    exact ⟨⟨owner, c⟩, Dictionary.mem_keys_iff.mpr ⟨bucket, found⟩, rfl⟩

theorem nodup_eraseDups : ∀ ids : List ComponentId, ids.eraseDups.Nodup
  | [] => List.nodup_nil
  | id :: rest => by
      rw [List.eraseDups_cons, List.nodup_cons]
      refine ⟨?_, nodup_eraseDups (rest.filter fun other => !other == id)⟩
      simp [List.mem_eraseDups]
termination_by ids => ids.length
decreasing_by exact Nat.lt_succ_of_le (List.length_filter_le _ _)

theorem owners_ascending (r : Registry) : r.owners.Pairwise (·.number < ·.number) :=
  ComponentId.sorted_ascending (nodup_eraseDups _)

/-- There are as many homes as entries of all owners. -/
theorem Coherent.size_eq_total_entries (coherent : r.Coherent)
    (few : ∀ owner c, r.bucketSize owner c < UInt32.size) :
    r.size = total (fun owner => (r.entries owner).length) r.owners := by
  have lengths (owner : ComponentId) :
      (r.entries owner).length = total (fun pair => pair.2.size) (r.shelf owner) :=
    length_entries fun pair member => coherent.size_lt few member
  have once : r.owners.Nodup := by
    refine r.owners_ascending.imp fun less same => ?_
    exact UInt64.lt_irrefl _ (same ▸ less)
  have covered : ∀ pair ∈ r.buckets.pairs, pair.1.owner ∈ r.owners := by
    intro pair member
    exact mem_owners.mpr ⟨pair.2, pair.1.contract, Dictionary.get?_eq_some_iff.mpr member⟩
  calc
    r.size = total Bucket.size r.buckets.values := coherent.size_eq_total
    _ = total (fun pair => pair.2.size) r.buckets.pairs := total_map ..
    _ = total (fun owner => total (fun pair => pair.2.size) (r.shelf owner)) r.owners :=
        total_classes _ (fun pair : BucketKey × Bucket => pair.1.owner) once covered
    _ = total (fun owner => (r.entries owner).length) r.owners := by simp only [lengths]

/-- An owner has a bucket exactly if it has entries. -/
theorem Coherent.mem_owners_iff (coherent : r.Coherent)
    (few : ∀ owner c, r.bucketSize owner c < UInt32.size) :
    owner ∈ r.owners ↔ r.entries owner ≠ [] := by
  rw [mem_owners]
  constructor
  · rintro ⟨bucket, c, found⟩ nothing
    -- The bucket is not empty, so its listing begins with the index zero.
    have member : (⟨owner, c⟩, bucket) ∈ r.shelf owner := mem_shelf.mpr found
    have positive := List.length_pos_iff.mpr (coherent.proper _ bucket found).inhabited
    have first : (⟨owner, bucket.contract, 0⟩ : Entry) ∈ r.entries owner := by
      refine coherent.mem_entries.mpr ⟨rfl, bucket, (coherent.shelved member).2, rfl, ?_⟩
      exact (Bucket.lt_next_iff (coherent.size_lt few member)).mpr positive
    simp [nothing] at first
  · intro some
    obtain ⟨e, member⟩ := List.exists_mem_of_ne_nil _ some
    obtain ⟨-, bucket, found, -⟩ := coherent.mem_entries.mp member
    exact ⟨bucket, _, found⟩

/-! ## Finding what is listed -/

/-- There is an entry for each object in the bucket of a contract, and for no other index. -/
theorem Coherent.entry_iff (coherent : r.Coherent)
    (few : ∀ owner c, r.bucketSize owner c < UInt32.size) (owner : ComponentId) (c : Contract)
    (index : UInt32) : (∃ e ∈ r.entries owner, e.contract.id = c.id ∧ e.index = index) ↔
      index.toNat < r.bucketSize owner c := by
  constructor
  · rintro ⟨e, member, same, rfl⟩
    obtain ⟨-, bucket, found, -, below⟩ := coherent.mem_entries.mp member
    rw [same] at found
    have size := bucketSize_of_found found
    rwa [Bucket.lt_next_iff (size ▸ few owner c), ← size] at below
  · intro below
    cases found : r.buckets.get? ⟨owner, c.id⟩ with
    | none => simp [bucketSize_of_absent found] at below
    | some bucket =>
        have size := bucketSize_of_found found
        have identity := (coherent.proper _ bucket found).identity
        refine ⟨⟨owner, bucket.contract, index⟩, ?_, identity, rfl⟩
        refine coherent.mem_entries.mpr ⟨rfl, bucket, identity ▸ found, rfl, ?_⟩
        rwa [Bucket.lt_next_iff (size ▸ few owner c), ← size]

/-- An owner finds an object of its own exactly at the indices below the size of the bucket. -/
theorem lookupContext_own_iff (r : Registry) (owner : ComponentId) (c : Contract)
    (index : UInt32) : (∃ o, r.lookupContext owner owner c index = .ok o) ↔
      index.toNat < r.bucketSize owner c := by
  have size : r.bucketSize owner c = (r.objects ⟨owner, c.id⟩).length := by
    simp [bucketSize, objects_eq_slots]
  rw [lookupContext_eq, if_pos (.inl rfl), size]
  cases at_index : (r.objects ⟨owner, c.id⟩)[index.toNat]? with
  | none => simpa using at_index
  | some o =>
      obtain ⟨below, -⟩ := List.getElem?_eq_some_iff.mp at_index
      simp [below]

/-- What an owner finds is registered. -/
theorem Coherent.contains_of_lookup (coherent : r.Coherent) {c : Contract} {index : UInt32}
    {o : Object} (found : r.lookupContext owner owner c index = .ok o) : r.contains o = true := by
  rw [lookupContext_eq, if_pos (.inl rfl)] at found
  have member : o ∈ r.objects ⟨owner, c.id⟩ := by
    cases at_index : (r.objects ⟨owner, c.id⟩)[index.toNat]? with
    | none => simp [at_index] at found
    | some other =>
        simp only [at_index, Option.elim_some, Except.ok.injEq] at found
        exact found ▸ List.mem_of_getElem? at_index
  have home : r.homes.get? o.id = some ⟨owner, c.id⟩ := by
    rw [coherent.home_iff]
    unfold objects at member
    split at member
    · rename_i bucket held
      obtain ⟨slot, slotted, rfl⟩ := List.mem_map.mp member
      exact ⟨bucket, held, List.mem_map.mpr ⟨slot, slotted, rfl⟩⟩
    · simp at member
  rw [contains, Dictionary.contains_eq_isSome, home]
  rfl

/-! ## On every course -/

variable {catalogue : Catalogue} {config : Config} {graph : Graph}
  {calls : List (Call RegistryCommand RegistryAnswer)}
  {s : Session Registry RegistryCommand RegistryAnswer}
  {tasks : List (Task RegistryCommand RegistryAnswer)}

/-- **The inventory agrees with what is found.** Whatever was asked of a registry, by the host and
from within callbacks, as long as no bucket has more objects than there are indices and type names
tell the contracts apart: an owner has an entry for a contract and an index exactly if the index is
below the size of that bucket, exactly if it finds an object there itself, and this is one object,
registered, whether it is asked for as the contract or as a context. The entries of an owner are
strictly ascending by contract name, type name and index, those of a contract are side by side
with the indices from zero on, and nothing but the buckets of the owner decides about them. The
owners are those who have entries, in strictly ascending order, and there are as many registered
objects as entries of all of them. -/
theorem inventory_agrees
    (course : Course perform (.start (.empty catalogue config graph)) calls s tasks)
    (few : ∀ owner c, s.state.bucketSize owner c < UInt32.size) (named : s.state.NamedApart) :
    (∀ owner c index,
      ((∃ e ∈ s.state.entries owner, e.contract.id = c.id ∧ e.index = index) ↔
        index.toNat < s.state.bucketSize owner c) ∧
      ((∃ o, s.state.lookup owner owner c index = .ok o) ↔
        index.toNat < s.state.bucketSize owner c) ∧
      ((∃ o, s.state.lookupContext owner owner c index = .ok o) ↔
        index.toNat < s.state.bucketSize owner c) ∧
      s.state.lookup owner owner c index = s.state.lookupContext owner owner c index ∧
      ∀ o, s.state.lookup owner owner c index = .ok o → s.state.contains o = true) ∧
    (∀ owner,
      (s.state.entries owner).Nodup ∧ (s.state.entries owner).Pairwise Entry.Before ∧
      (∀ e ∈ s.state.entries owner, e.owner = owner) ∧
      (∀ c, ∃ d before after, d.id = c.id ∧
        s.state.entries owner = before ++ (List.range (s.state.bucketSize owner c)).map
          (fun index => ⟨owner, d, .ofNat index⟩) ++ after ∧
        ∀ e ∈ before ++ after, e.contract.id ≠ c.id) ∧
      ∀ other : Registry,
        (∀ key, key.owner = owner → other.buckets.get? key = s.state.buckets.get? key) →
        other.entries owner = s.state.entries owner) ∧
    s.state.owners.Pairwise (·.number < ·.number) ∧
    (∀ owner, owner ∈ s.state.owners ↔ s.state.entries owner ≠ []) ∧
    s.state.size = total (fun owner => (s.state.entries owner).length) s.state.owners := by
  have coherent := coherent_of_course course
  refine ⟨?_, ?_, s.state.owners_ascending, fun owner => coherent.mem_owners_iff few,
    coherent.size_eq_total_entries few⟩
  · intro owner c index
    have typed := coherent.lookup_eq owner owner c index
    rw [typed]
    exact ⟨coherent.entry_iff few owner c index, s.state.lookupContext_own_iff owner c index,
      s.state.lookupContext_own_iff owner c index, rfl, fun o => coherent.contains_of_lookup⟩
  · intro owner
    have ascending := coherent.entries_strictly_ascending named owner
    have split := coherent.entries_split named few owner
    refine ⟨ascending.imp Entry.Before.ne, ascending, ?_, split, ?_⟩
    · intro e member
      exact (coherent.mem_entries.mp member).1
    · intro other same
      exact coherent.entries_of_same named same

/-- Someone registers a memory and a line, and an observer is about to be called for the line that
it has added. -/
def stocked : Moment Registry RegistryCommand RegistryAnswer :=
  (Session.start (.empty [] .empty .full)).moment perform
    [.command (.register ⟨1⟩ ⟨2, [.memory ⟨1, "Ram"⟩]⟩ (.memory ⟨1, "Ram"⟩)), .subscribe echo,
      .command firstLine] 6

/-- The memory is listed beside the two lines. -/
theorem inventory_agrees_beside_memory :
    Course perform (.start (.empty [] .empty .full)) stocked.calls stocked.session stocked.agenda ∧
      (∀ owner c, stocked.session.state.bucketSize owner c < UInt32.size) ∧
      stocked.session.state.NamedApart ∧
      (∃ e ∈ stocked.session.state.entries ⟨1⟩, e.contract.id = ⟨1, "Ram"⟩ ∧ e.index = 0) ∧
      (∃ e ∈ stocked.session.state.entries ⟨1⟩, e.contract.id = ⟨0, "Line"⟩ ∧ e.index = 1) ∧
      ¬ (∃ e ∈ stocked.session.state.entries ⟨1⟩, e.contract.id = ⟨0, "Line"⟩ ∧ e.index = 2) ∧
      (stocked.session.state.entries ⟨1⟩).Pairwise Entry.Before ∧
      3 = total (fun owner => (stocked.session.state.entries owner).length)
        stocked.session.state.owners := by
  have course : Course perform (.start (.empty [] .empty .full)) stocked.calls stocked.session
      stocked.agenda := Course.moment ..
  have few : ∀ owner c, stocked.session.state.bucketSize owner c < UInt32.size :=
    bucketSize_lt (by decide) rfl
  have named : stocked.session.state.NamedApart := by
    unfold NamedApart
    decide
  obtain ⟨listed, ordered, -, -, sizes⟩ := inventory_agrees course few named
  refine ⟨course, few, named, ?_, ?_, ?_, (ordered ⟨1⟩).2.1, sizes⟩
  · exact (listed ⟨1⟩ (.memory ⟨1, "Ram"⟩) 0).1.mpr (by decide)
  · exact (listed ⟨1⟩ (.cpu ⟨0, "Line"⟩) 1).1.mpr (by decide)
  · exact mt (listed ⟨1⟩ (.cpu ⟨0, "Line"⟩) 2).1.mp (by decide)

end Registry

end Switchboard
