import Mathlib.Algebra.BigOperators.Group.List.Basic
import Mathlib.Algebra.Order.BigOperators.Group.List
import Mathlib.Tactic.Common

/-!
# Tallies of weighted entries

A tally maps every key to the sum of the weights that were entered under it.  Adding an
entry to the value under its key keeps the tally of one more entry, and the sum over the
keys of a tally is the sum over its entries.  Where the weights are positive, the keys are
those with a positive value.
-/

namespace Tally

section Listed

variable {Key Weight : Type} [Ord Key] [Std.TransOrd Key] [Std.LawfulEqOrd Key]
variable {tallies : Std.TreeMap Key Weight}

/-- The listed values are those read under their keys. -/
theorem getD_of_mem_toList [Zero Weight] {entry : Key × Weight}
    (member : entry ∈ tallies.toList) : tallies.getD entry.1 0 = entry.2 := by
  rw [Std.TreeMap.getD_eq_getD_getElem?,
    Std.TreeMap.mem_toList_iff_getElem?_eq_some.mp member, Option.getD_some]

theorem mem_of_mem_toList {entry : Key × Weight} (member : entry ∈ tallies.toList) :
    entry.1 ∈ tallies := by
  rw [Std.TreeMap.mem_iff_isSome_getElem?,
    Std.TreeMap.mem_toList_iff_getElem?_eq_some.mp member]
  rfl

theorem mem_toList_of_mem [Zero Weight] {key : Key} (present : key ∈ tallies) :
    (key, tallies.getD key 0) ∈ tallies.toList := by
  obtain ⟨value, found⟩ := Option.isSome_iff_exists.mp
    (Std.TreeMap.mem_iff_isSome_getElem?.mp present)
  rw [Std.TreeMap.mem_toList_iff_getElem?_eq_some, Std.TreeMap.getD_eq_getD_getElem?, found,
    Option.getD_some]

theorem nodup_keys_toList : (tallies.toList.map Prod.fst).Nodup := by
  rw [List.Nodup, List.pairwise_map]
  refine Std.TreeMap.distinct_keys_toList.imp fun different same => different ?_
  exact Std.LawfulEqOrd.compare_eq_iff_eq.mpr same

end Listed

variable {Key Weight : Type} [DecidableEq Key] [AddCommMonoid Weight]

section Entries

/-- The sum of the weights entered under a key. -/
def weightOf (entries : List (Key × Weight)) (key : Key) : Weight :=
  ((entries.filter fun entry => entry.1 = key).map Prod.snd).sum

@[simp] theorem weightOf_nil {key : Key} : weightOf ([] : List (Key × Weight)) key = 0 :=
  rfl

theorem weightOf_snoc {entries : List (Key × Weight)} {key : Key} {weight : Weight}
    {other : Key} :
    weightOf (entries ++ [(key, weight)]) other =
      weightOf entries other + if key = other then weight else 0 := by
  unfold weightOf
  by_cases same : key = other <;> simp [same]

end Entries

section Tallies

variable [Ord Key]

/-- The sum over all keys. -/
def total (tallies : Std.TreeMap Key Weight) : Weight :=
  (tallies.toList.map Prod.snd).sum

/-- The tallies are those of the entries. -/
structure Of (entries : List (Key × Weight)) (tallies : Std.TreeMap Key Weight) : Prop where
  value : ∀ key, tallies.getD key 0 = weightOf entries key
  keys : ∀ key, key ∈ tallies ↔ ∃ entry ∈ entries, entry.1 = key
  total : total tallies = (entries.map Prod.snd).sum

variable [Std.TransOrd Key] {tallies : Std.TreeMap Key Weight}
variable {entries : List (Key × Weight)}

theorem of_nil : Of ([] : List (Key × Weight)) ∅ where
  value := by simp
  keys := by simp
  total := rfl

variable [Std.LawfulEqOrd Key]

/-- The sum after writing one key is its new value and the sum over the others. -/
theorem total_insert {key : Key} {weight : Weight} :
    total (tallies.insert key weight) = weight +
      ((tallies.toList.filter fun entry => ¬(key == entry.1) = true).map Prod.snd).sum := by
  have written := (Std.TreeMap.toList_insert_perm (t := tallies) (k := key) (v := weight)).map
    Prod.snd
  rw [total, written.sum_eq, List.map_cons, List.sum_cons]

/-- The sum over all keys is split between one key and the others. -/
theorem total_split (key : Key) :
    total tallies = tallies.getD key 0 +
      ((tallies.toList.filter fun entry => ¬(key == entry.1) = true).map Prod.snd).sum := by
  cases found : tallies[key]? with
  | none =>
      have others : tallies.toList.filter (fun entry => ¬(key == entry.1) = true) =
          tallies.toList := by
        refine List.filter_eq_self.mpr fun entry member => ?_
        have present := Std.TreeMap.mem_toList_iff_getElem?_eq_some.mp member
        have different : key ≠ entry.1 := by
          rintro rfl
          simp [found] at present
        simp [different]
      rw [others, Std.TreeMap.getD_eq_getD_getElem?, found, Option.getD_none, zero_add, total]
  | some value =>
      have same : (tallies.insert key value).toList = tallies.toList := by
        apply Std.TreeMap.Equiv.toList_eq
        apply Std.TreeMap.Equiv.of_forall_constGet?_eq
        intro other
        rw [Std.TreeMap.getElem?_insert]
        split
        · rename_i equal
          rw [← Std.LawfulEqOrd.compare_eq_iff_eq.mp equal, found]
        · rfl
      rw [Std.TreeMap.getD_eq_getD_getElem?, found, Option.getD_some, ← total_insert, total,
        total, same]

/-- Adding to the value under a key adds an entry. -/
theorem Of.snoc {key : Key} {weight : Weight} (tallied : Of entries tallies) :
    Of (entries ++ [(key, weight)]) (tallies.insert key (tallies.getD key 0 + weight)) where
  value := by
    intro other
    rw [weightOf_snoc, Std.TreeMap.getD_insert, ← tallied.value other]
    by_cases same : key = other <;> simp [same]
  keys := by
    intro other
    rw [Std.TreeMap.mem_insert, tallied.keys]
    simp [or_comm]
  total := by
    rw [total_insert, add_right_comm, ← total_split, tallied.total]
    simp

end Tallies

section Positive

variable [Preorder Weight] [IsOrderedAddMonoid Weight] {entries : List (Key × Weight)}
variable {key : Key}

theorem weightOf_pos (positive : ∀ entry ∈ entries, 0 < entry.2)
    (entered : ∃ entry ∈ entries, entry.1 = key) : 0 < weightOf entries key := by
  apply List.sum_pos
  · intro weight member
    obtain ⟨entry, inside, rfl⟩ := List.mem_map.mp member
    exact positive entry (List.mem_filter.mp inside).1
  · obtain ⟨entry, member, same⟩ := entered
    exact List.ne_nil_of_mem (List.mem_map_of_mem (List.mem_filter.mpr ⟨member, by simpa⟩))

/-- Where all weights are positive, the value under a key tells whether it was entered. -/
theorem Of.mem_iff_pos [Ord Key] [Std.TransOrd Key] {tallies : Std.TreeMap Key Weight}
    (tallied : Of entries tallies) (positive : ∀ entry ∈ entries, 0 < entry.2) :
    key ∈ tallies ↔ 0 < tallies.getD key 0 := by
  constructor
  · intro present
    rw [tallied.value]
    exact weightOf_pos positive ((tallied.keys key).mp present)
  · contrapose
    intro absent
    rw [Std.TreeMap.getD_eq_fallback absent]
    exact lt_irrefl 0

end Positive

end Tally
