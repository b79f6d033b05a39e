/-!
# Sorted sets of texts

Lists in rising order without repetition. `mem_sortDistinct` says that sorting neither adds nor loses a
text.
-/

namespace FieldRules.Text

/-- Puts a text in its place, unless it is there. -/
def insertDistinct (s : String) : List String → List String
  | [] => [s]
  | x :: xs => if s = x then x :: xs else if s < x then s :: x :: xs else x :: insertDistinct s xs

/-- The texts in rising order, each once. -/
def sortDistinct (xs : List String) : List String := xs.foldr insertDistinct []

theorem mem_insertDistinct {s t : String} {xs : List String} :
    t ∈ insertDistinct s xs ↔ t = s ∨ t ∈ xs := by
  induction xs with
  | nil => simp [insertDistinct]
  | cons x xs ih =>
    unfold insertDistinct
    split
    · simp_all
    · split
      · simp
      · simp only [List.mem_cons, ih]
        grind

theorem mem_sortDistinct {t : String} {xs : List String} : t ∈ sortDistinct xs ↔ t ∈ xs := by
  induction xs with
  | nil => simp [sortDistinct]
  | cons x xs ih =>
    rw [show sortDistinct (x :: xs) = insertDistinct x (sortDistinct xs) from rfl, mem_insertDistinct, ih,
      List.mem_cons]

end FieldRules.Text
