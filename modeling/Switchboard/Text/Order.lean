/-!
# The order of texts

Texts are ordered by their UTF-8 bytes, the first differing byte deciding and a
shorter text going before its extensions. This is a linear order, so texts in any
two orders are the same once they are sorted (`sorted_eq_iff_perm`).
-/

namespace Switchboard.Text

/-- The UTF-8 bytes of a text. -/
def bytes (s : String) : List UInt8 :=
  s.toUTF8.data.toList

/-- Whether `s` goes before `t` or is `t`, by UTF-8 bytes. -/
def precedes (s t : String) : Bool :=
  decide (bytes s ≤ bytes t)

/-- Texts in ascending order; equal texts are all kept. -/
def sorted (texts : List String) : List String :=
  texts.mergeSort precedes

theorem bytes_injective {s t : String} (same : bytes s = bytes t) : s = t := by
  apply String.toByteArray_inj.mp
  exact ByteArray.ext (Array.ext' same)

theorem bytes_append (s t : String) : bytes (s ++ t) = bytes s ++ bytes t :=
  ByteArray.toList_data_append

theorem precedes_trans {s t u : String} (first : precedes s t = true)
    (second : precedes t u = true) : precedes s u = true :=
  decide_eq_true (List.le_trans (of_decide_eq_true first) (of_decide_eq_true second))

theorem precedes_total (s t : String) : precedes s t = true ∨ precedes t s = true := by
  simp only [precedes, decide_eq_true_eq]
  exact List.le_total _ _

theorem precedes_antisymm {s t : String} (first : precedes s t = true)
    (second : precedes t s = true) : s = t :=
  bytes_injective (List.le_antisymm (of_decide_eq_true first) (of_decide_eq_true second))

theorem precedes_iff_lt_or_eq {s t : String} :
    precedes s t = true ↔ bytes s < bytes t ∨ s = t := by
  rw [precedes, decide_eq_true_eq, List.le_iff_lt_or_eq]
  constructor
  · rintro (before | same)
    · exact .inl before
    · exact .inr (bytes_injective same)
  · rintro (before | rfl)
    · exact .inl before
    · exact .inr rfl

/-- Sorting keeps every text, as often as it was there. -/
theorem sorted_perm (texts : List String) : (sorted texts).Perm texts :=
  List.mergeSort_perm ..

theorem sorted_ascending (texts : List String) :
    (sorted texts).Pairwise fun s t => precedes s t = true := by
  refine List.pairwise_mergeSort ?_ ?_ texts
  · intro s t u first second
    exact precedes_trans first second
  · intro s t
    rw [Bool.or_eq_true]
    exact precedes_total s t

/-- Texts in ascending order are what these texts are once they are sorted. -/
theorem sorted_eq_of_perm {texts ascending : List String} (perm : ascending.Perm texts)
    (ordered : ascending.Pairwise fun s t => precedes s t = true) : sorted texts = ascending := by
  refine List.Perm.eq_of_pairwise ?_ (sorted_ascending texts) ordered
    ((sorted_perm texts).trans perm.symm)
  intro s t _ _ first second
  exact precedes_antisymm first second

/-- Sorted, some texts are the same as others exactly if they are these in another order. -/
theorem sorted_eq_iff_perm {texts others : List String} :
    sorted texts = sorted others ↔ texts.Perm others := by
  constructor
  · intro same
    exact (sorted_perm texts).symm.trans (same ▸ sorted_perm others)
  · intro perm
    exact sorted_eq_of_perm ((sorted_perm others).trans perm.symm) (sorted_ascending others)

end Switchboard.Text
