/-! Sorting by insertion. Each element moves left past the elements that it precedes, so equal
elements keep their places, and the outcome is defined for any relation. -/

namespace GuardedQuery.Sorting
variable {α : Type}

/-- Inserts into a list that runs from the last element to the first. -/
def place (precedes : α → α → Bool) (x : α) : List α → List α
  | [] => [x]
  | last :: rest => if precedes x last then last :: place precedes x rest else x :: last :: rest

def sort (precedes : α → α → Bool) (xs : List α) : List α :=
  (xs.foldl (fun sorted x => place precedes x sorted) []).reverse

theorem place_perm (precedes : α → α → Bool) (x : α) (xs : List α) :
    (place precedes x xs).Perm (x :: xs) := by
  induction xs with
  | nil => exact .refl _
  | cons last rest ih =>
    rw [place]
    split
    · exact (ih.cons last).trans (.swap x last rest)
    · exact .refl _

theorem sort_perm (precedes : α → α → Bool) (xs : List α) : (sort precedes xs).Perm xs := by
  suffices ∀ sorted : List α,
      (xs.foldl (fun sorted x => place precedes x sorted) sorted).Perm (sorted ++ xs) from
    (List.reverse_perm _).trans (this [])
  induction xs with
  | nil => simp
  | cons x rest ih =>
    intro sorted
    refine (ih (place precedes x sorted)).trans ?_
    refine ((place_perm precedes x sorted).append_right rest).trans ?_
    exact List.perm_middle.symm

theorem mem_sort {precedes : α → α → Bool} {xs : List α} {x : α} :
    x ∈ sort precedes xs ↔ x ∈ xs := (sort_perm precedes xs).mem_iff

theorem length_sort (precedes : α → α → Bool) (xs : List α) :
    (sort precedes xs).length = xs.length := (sort_perm precedes xs).length_eq

end GuardedQuery.Sorting
