import FieldRules.Pattern.Delimited
import FieldRules.Text.Blank
import FieldRules.Text.Whole
/-!
# Stashed patterns

A pattern in a rule may hold the signs that separate cells. Before a rule is cut into cells, each pattern is
taken out and a mark with its number is left in its place; the values of a token get their patterns back.
-/

namespace FieldRules

open FieldRules.Text

/-- The beginning of the mark of a stashed pattern. -/
def patternMark : String := "__RULEFORM_REGEX_VALUE_"

/-- The end of the mark. -/
def patternMarkEnd : String := "__"

/-- The patterns that were taken out of one rule, in order. -/
structure PatternStash where
  patterns : List String := []
  deriving DecidableEq, Repr

namespace PatternStash

/-- The mark of the pattern with a number. -/
def mark (n : Nat) : String := patternMark ++ showNat n ++ patternMarkEnd

/-- Stashes a pattern and gives its mark. -/
def add (s : PatternStash) (pattern : String) : PatternStash × String :=
  (⟨s.patterns ++ [pattern]⟩, mark s.patterns.length)

/-- The pattern that a value marks, else the value. -/
def restore (s : PatternStash) (value : String) : String :=
  let pattern := do
    let rest ← afterStart patternMark.toList value.toList
    let number ← beforeEnd patternMarkEnd.toList rest
    let n ← natBelow? s.patterns.length (String.ofList number)
    s.patterns[n]?
  pattern.getD value

/-! ## Taking patterns out -/

/-- The names of the test of patterns that make a cell hold a pattern. -/
def cellNames : List String := ["regexp", "regex", "reg", "re", "pattern"]

/-- The head of a cell that holds a pattern, up to its colon, and what follows. -/
def cellHead? (cs : List Char) : Option (List Char × List Char) :=
  let blanks := cs.takeWhile isBlank
  let body := cs.dropWhile isBlank
  let name := body.takeWhile isAsciiLetter
  let rest := body.dropWhile isAsciiLetter
  match rest.dropWhile isBlank with
  | ':' :: after =>
    if cellNames.contains (asciiLower (String.ofList name)) then
      some (blanks ++ name ++ rest.takeWhile isBlank ++ [':'], after)
    else none
  | _ => none

/-- What stands up to the first closing delimiter without a backslash before it, and what follows. -/
def cutClosing (close : Char) : List Char → Option (List Char × List Char)
  | [] => none
  | '\\' :: cs =>
    match cs with
    | [] => none
    | c :: cs => (cutClosing close cs).map fun (a, b) => ('\\' :: c :: a, b)
  | c :: cs => if c == close then some ([c], cs) else (cutClosing close cs).map fun (a, b) => (c :: a, b)

/-- Splits at the first character that satisfies `p`; that character stays in the second part. -/
def splitBefore (p : Char → Bool) (cs : List Char) : List Char × List Char :=
  (cs.takeWhile fun c => !p c, cs.dropWhile fun c => !p c)

/-- Does the character separate cells? -/
def isSeparator (c : Char) : Bool := c == ';' || c == '|'

/-- The pattern at the start of a text, and what follows: a delimited one with its flags, all of the text
if it is never closed, and a bare one up to the next separator, where `;` goes before `|`. -/
def cutPattern : List Char → List Char × List Char
  | [] => ([], [])
  | c :: cs =>
    if Pattern.isDelimiter c then
      match cutClosing c cs with
      | some (body, rest) => (c :: body ++ rest.takeWhile isAsciiLetter, rest.dropWhile isAsciiLetter)
      | none => (c :: cs, [])
    else splitBefore (· == (if (c :: cs).contains ';' then ';' else '|')) (c :: cs)

/-- One cell of a rule whose pattern, if it has one, has been taken out. -/
structure Opening where
  /-- The head of the cell with the mark, or nothing. -/
  shown : List Char
  pattern : Option String
  /-- What follows in the rule. -/
  rest : List Char

/-- Takes the pattern out of a cell that holds one; `n` patterns were taken before. -/
def openCell (n : Nat) (cs : List Char) : Opening :=
  match cellHead? cs with
  | some (head, after) =>
    let (pattern, rest) := cutPattern (trimStartChars after)
    ⟨head ++ (mark n).toList, some (String.ofList (trimEndChars pattern)), rest⟩
  | none => ⟨[], none, cs⟩

theorem length_cellHead {cs head after : List Char} (h : cellHead? cs = some (head, after)) :
    after.length ≤ cs.length := by
  unfold cellHead? at h
  have h1 := (List.dropWhile_sublist isBlank (l := cs)).length_le
  have h2 := (List.dropWhile_sublist isAsciiLetter (l := cs.dropWhile isBlank)).length_le
  have h3 := (List.dropWhile_sublist isBlank
    (l := (cs.dropWhile isBlank).dropWhile isAsciiLetter)).length_le
  simp only at h
  split at h
  · rename_i after' heq
    split at h
    · simp only [Option.some.injEq, Prod.mk.injEq] at h
      rw [heq, List.length_cons] at h3
      rw [← h.2]
      omega
    · simp at h
  · simp at h

theorem length_cutClosing {close : Char} {cs body rest : List Char}
    (h : cutClosing close cs = some (body, rest)) : rest.length ≤ cs.length := by
  fun_induction cutClosing close cs generalizing body with
  | case1 => simp at h
  | case2 => simp at h
  | case3 c cs ih =>
    obtain ⟨⟨a, b⟩, hab, he⟩ := Option.map_eq_some_iff.1 h
    simp only [Prod.mk.injEq] at he
    have := ih (he.2 ▸ hab)
    simp only [List.length_cons]
    omega
  | case4 => simp_all
  | case5 c cs hc hclose ih =>
    obtain ⟨⟨a, b⟩, hab, he⟩ := Option.map_eq_some_iff.1 h
    simp only [Prod.mk.injEq] at he
    have := ih (he.2 ▸ hab)
    simp only [List.length_cons]
    omega

theorem length_cutPattern (cs : List Char) : (cutPattern cs).2.length ≤ cs.length := by
  fun_cases cutPattern cs with
  | case1 => simp
  | case2 c cs hc body rest h =>
    have h1 := length_cutClosing h
    have h2 := (List.dropWhile_sublist isAsciiLetter (l := rest)).length_le
    simp only [List.length_cons]
    omega
  | case3 => simp
  | case4 => exact (List.dropWhile_sublist _).length_le

theorem length_openCell (n : Nat) (cs : List Char) : (openCell n cs).rest.length ≤ cs.length := by
  unfold openCell
  split
  · rename_i head after h
    have h1 := length_cellHead h
    have h2 := length_cutPattern (trimStartChars after)
    have h3 := (List.dropWhile_sublist isBlank (l := after)).length_le
    unfold trimStartChars at h2
    simp only [trimStartChars]
    omega
  · simp

/-- The text of a rule with marks for its patterns, and the patterns; `n` patterns were taken before. -/
def liftFrom (n : Nat) (cs : List Char) : List Char × List String :=
  let cell := openCell n cs
  match _h : cell.rest.dropWhile fun c => !isSeparator c with
  | [] => (cell.shown ++ cell.rest, cell.pattern.toList)
  | separator :: after =>
    let (shown, patterns) := liftFrom (n + cell.pattern.toList.length) after
    (cell.shown ++ cell.rest.takeWhile (fun c => !isSeparator c) ++ separator :: shown,
      cell.pattern.toList ++ patterns)
termination_by cs.length
decreasing_by
  have h1 := length_openCell n cs
  have h2 := (List.dropWhile_sublist (fun c => !isSeparator c) (l := cell.rest)).length_le
  rw [_h, List.length_cons] at h2
  simp only [cell] at h2
  omega

/-- Takes the patterns out of a rule. -/
def lift (s : PatternStash) (rule : String) : PatternStash × String :=
  let (shown, patterns) := liftFrom s.patterns.length rule.toList
  (⟨s.patterns ++ patterns⟩, String.ofList shown)

end PatternStash

end FieldRules
