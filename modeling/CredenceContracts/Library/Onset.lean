import Mathlib.Data.List.Basic

/-!
# From the first on, and up to the last

Of a list in time order, what it holds from the first member of a kind on, and the last
value that a member gives.
-/

namespace Onset

variable {α β : Type} {opens : α → Bool} {gives : α → Option β} {list : List α} {last : α}

/-- The members from the first of a kind on. -/
def onward (opens : α → Bool) (list : List α) : List α :=
  list.dropWhile fun member => !opens member

/-- The value that the last member with one gives. -/
def latest (gives : α → Option β) (list : List α) : Option β :=
  list.reverse.findSome? gives

@[simp] theorem onward_nil : onward opens [] = [] := rfl

@[simp] theorem latest_nil : latest gives [] = none := rfl

/-- Once there is a member of the kind, all that come are kept. -/
theorem onward_snoc (begun : onward opens list ≠ []) :
    onward opens (list ++ [last]) = onward opens list ++ [last] := by
  unfold onward at begun ⊢
  rw [List.dropWhile_append, if_neg (by simpa using begun)]

/-- Until then, the next to come is the first, or it is dropped. -/
theorem onward_snoc_of_nil (unbegun : onward opens list = []) :
    onward opens (list ++ [last]) = if opens last then [last] else [] := by
  unfold onward at unbegun ⊢
  rw [List.dropWhile_append, if_pos (by simp [unbegun]), List.dropWhile_cons]
  cases opens last <;> rfl

@[simp] theorem latest_snoc :
    latest gives (list ++ [last]) = (gives last).or (latest gives list) := by
  simp only [latest, List.reverse_append, List.reverse_singleton, List.singleton_append,
    List.findSome?_cons]
  cases gives last <;> rfl

/-- Members that only come with or after the first are all among those from it on. -/
theorem countP_onward {counted : α → Bool} (follows : ∀ member, counted member → opens member) :
    (onward opens list).countP counted = list.countP counted := by
  induction list with
  | nil => rfl
  | cons head rest ih =>
      unfold onward at ih ⊢
      rw [List.dropWhile_cons]
      split
      · rename_i closed
        have uncounted : counted head ≠ true := fun same => by simp [follows head same] at closed
        rw [ih, List.countP_cons_of_neg uncounted]
      · rfl

/-- A value that only members of the kind give is given last from the first of them on,
where it is given last. -/
theorem latest_onward {value : β} (follows : ∀ member, gives member = some value → opens member)
    (given : latest gives list = some value) :
    latest gives (onward opens list) = some value := by
  induction list with
  | nil => exact given
  | cons head rest ih =>
      unfold onward at ih ⊢
      rw [List.dropWhile_cons]
      split
      · rename_i closed
        apply ih
        have ungiven : gives head ≠ some value := fun same => by
          simp [follows head same] at closed
        simpa [latest, List.findSome?_append, Option.or_eq_some_iff, ungiven] using given
      · exact given

end Onset
