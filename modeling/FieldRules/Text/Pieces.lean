/-!
# Pieces of a text

Splitting at a separator, searching, and joining again. `cutAt_eq_some` says that a cut is made at
the first separator and loses nothing else.
-/

namespace FieldRules.Text

/-- The pieces between the characters that satisfy `p`: always at least one. -/
def piecesBy (p : Char → Bool) : List Char → List (List Char)
  | [] => [[]]
  | c :: cs =>
    if p c then [] :: piecesBy p cs
    else match piecesBy p cs with
      | [] => [[c]]
      | w :: ws => (c :: w) :: ws

/-- The pieces of `s` between the separators; a text without one is its only piece. -/
def pieces (sep : Char) (s : String) : List String :=
  (piecesBy (· == sep) s.toList).map String.ofList

/-- The pieces of `s` between spaces and line breaks, without the empty ones. -/
def words (s : String) : List String :=
  ((piecesBy (fun c => c == ' ' || c == '\n') s.toList).filter (!·.isEmpty)).map String.ofList

/-- What stands before and after the first character that satisfies `p`. -/
def cutAt (p : Char → Bool) : List Char → Option (List Char × List Char)
  | [] => none
  | c :: cs => if p c then some ([], cs) else (cutAt p cs).map fun (a, b) => (c :: a, b)

/-- What stands before and after the first separator. -/
def cutOnce (sep : Char) (s : String) : Option (String × String) :=
  (cutAt (· == sep) s.toList).map fun (a, b) => (String.ofList a, String.ofList b)

/-- What stands before and after the last separator. -/
def cutLast (sep : Char) (s : String) : Option (String × String) :=
  (cutAt (· == sep) s.toList.reverse).map fun (b, a) =>
    (String.ofList a.reverse, String.ofList b.reverse)

/-- What follows `start` in `cs`, if `cs` begins with it. -/
def afterStart : (start cs : List Char) → Option (List Char)
  | [], cs => some cs
  | _ :: _, [] => none
  | a :: start, c :: cs => if a == c then afterStart start cs else none

/-- What precedes `tail` in `cs`, if `cs` ends with it. -/
def beforeEnd (tail cs : List Char) : Option (List Char) :=
  (afterStart tail.reverse cs.reverse).map List.reverse

/-- Does `needle` occur in `cs`? -/
def occurs (needle : List Char) : List Char → Bool
  | [] => needle.isEmpty
  | c :: cs => needle.isPrefixOf (c :: cs) || occurs needle cs

/-- The texts in order, with `sep` between neighbours. -/
def join (sep : String) (xs : List String) : String := String.intercalate sep xs

theorem piecesBy_ne_nil (p : Char → Bool) (cs : List Char) : piecesBy p cs ≠ [] := by
  cases cs with
  | nil => simp [piecesBy]
  | cons c cs =>
    unfold piecesBy
    split
    · simp
    · split <;> simp

theorem cutAt_eq_some {p : Char → Bool} {cs a b : List Char} (h : cutAt p cs = some (a, b)) :
    ∃ c, p c = true ∧ cs = a ++ c :: b ∧ ∀ x ∈ a, p x = false := by
  induction cs generalizing a b with
  | nil => simp [cutAt] at h
  | cons c cs ih =>
    unfold cutAt at h
    split at h
    · rename_i hc
      simp only [Option.some.injEq, Prod.mk.injEq] at h
      obtain ⟨rfl, rfl⟩ := h
      exact ⟨c, hc, rfl, by simp⟩
    · rename_i hc
      obtain ⟨⟨a', b'⟩, h', he⟩ := Option.map_eq_some_iff.1 h
      simp only [Prod.mk.injEq] at he
      obtain ⟨rfl, rfl⟩ := he
      obtain ⟨d, hd, rfl, hx⟩ := ih h'
      exact ⟨d, hd, rfl, by simpa [hc] using hx⟩

theorem afterStart_eq_some {start cs rest : List Char} (h : afterStart start cs = some rest) :
    cs = start ++ rest := by
  fun_induction afterStart start cs with
  | case1 cs => simp_all
  | case2 => simp at h
  | case3 a start c cs hac ih => simp_all
  | case4 => simp at h

end FieldRules.Text
