import FieldRules.Text.Ascii
/-!
# Markup in texts

Escaping a text for a page, and taking tags and comments out of it. `stripOnce_sublist` says that stripping
only deletes; so it can be repeated until nothing changes.
-/

namespace FieldRules.Markup

open FieldRules.Text

/-! ## Escaping -/

/-- Does the text go on, after an `&`, as an entity: a short number or a short name, and a semicolon? -/
def isEntity : List Char → Bool
  | '#' :: x :: cs =>
    let digits := (x :: cs).takeWhile isAsciiDigit
    let hex := cs.takeWhile isHexDigit
    (1 ≤ digits.length && digits.length ≤ 7 && (x :: cs)[digits.length]? == some ';') ||
      ((x == 'x' || x == 'X') && 1 ≤ hex.length && hex.length ≤ 6 && cs[hex.length]? == some ';')
  | c :: cs =>
    let name := cs.takeWhile fun c => isAsciiLetter c || isAsciiDigit c
    isAsciiLetter c && 1 ≤ name.length && name.length ≤ 31 && cs[name.length]? == some ';'
  | [] => false

/-- What is written for a character, given what follows it. An `&` of an entity stays. -/
def escapeChar (c : Char) (rest : List Char) : List Char :=
  if c == '&' then (if isEntity rest then ['&'] else "&amp;".toList)
  else if c == '<' then "&lt;".toList
  else if c == '>' then "&gt;".toList
  else if c == '\x22' then "&quot;".toList
  else if c == '\x27' then "&#x27;".toList
  else [c]

def escapeChars : List Char → List Char
  | [] => []
  | c :: cs => escapeChar c cs ++ escapeChars cs

/-- The text without characters that a page would take for markup. -/
def escape (s : String) : String := String.ofList (escapeChars s.toList)

/-! ## Stripping -/

/-- Does a `<` before this character open markup? -/
def opensMarkup (c : Char) : Bool := isAsciiLetter c || c == '/' || c == '!' || c == '?'

/-- What follows the end of a comment; nothing if it is never closed. -/
def afterComment : List Char → List Char
  | '-' :: '-' :: '>' :: cs => cs
  | _ :: cs => afterComment cs
  | [] => []

/-- What follows the end of a tag; nothing if it is never closed. A `>` in quotes does not close it, and
`quote` is the open quote. -/
def afterTag (quote : Option Char) : List Char → List Char
  | [] => []
  | c :: cs =>
    match quote with
    | some q => afterTag (if c == q then none else quote) cs
    | none =>
      if c == '>' then cs
      else afterTag (if c == '\x22' || c == '\x27' then some c else none) cs

theorem afterComment_sublist (cs : List Char) : (afterComment cs).Sublist cs := by
  fun_induction afterComment cs with
  | case1 cs => exact ((List.Sublist.refl cs).cons _ |>.cons _).cons _
  | case2 _ cs _ ih => exact ih.trans (List.sublist_cons_self _ _)
  | case3 => exact .slnil

theorem afterTag_sublist (quote : Option Char) (cs : List Char) : (afterTag quote cs).Sublist cs := by
  induction cs generalizing quote with
  | nil => exact .slnil
  | cons c cs ih =>
    unfold afterTag
    split
    · exact (ih _).trans (List.sublist_cons_self _ _)
    · split
      · exact List.sublist_cons_self _ _
      · exact (ih _).trans (List.sublist_cons_self _ _)

/-- Deletes every tag and every comment once. -/
def stripOnce : List Char → List Char
  | [] => []
  | c :: cs =>
    if c != '<' || !cs.head?.any opensMarkup then c :: stripOnce cs
    else if ['!', '-', '-'].isPrefixOf cs then stripOnce (afterComment (cs.drop 3))
    else stripOnce (afterTag none cs)
termination_by cs => cs.length
decreasing_by
  · simp
  · have h1 := (afterComment_sublist (cs.drop 3)).length_le
    have h2 := (List.drop_sublist 3 cs).length_le
    simp only [List.length_cons]
    omega
  · have h1 := (afterTag_sublist none cs).length_le
    simp only [List.length_cons]
    omega

theorem stripOnce_sublist (cs : List Char) : (stripOnce cs).Sublist cs := by
  fun_induction stripOnce cs with
  | case1 => exact .slnil
  | case2 c cs _ ih => exact ih.cons_cons c
  | case3 c cs _ _ ih =>
    exact ((ih.trans (afterComment_sublist _)).trans (List.drop_sublist 3 cs)).trans
      (List.sublist_cons_self _ _)
  | case4 c cs _ _ ih => exact (ih.trans (afterTag_sublist _ _)).trans (List.sublist_cons_self _ _)

theorem length_stripOnce_lt {cs : List Char} (h : stripOnce cs ≠ cs) :
    (stripOnce cs).length < cs.length := by
  have hs := stripOnce_sublist cs
  exact Nat.lt_of_le_of_ne hs.length_le fun he => h (hs.eq_of_length he)

/-- Deletes tags and comments until none is left. -/
def stripChars (cs : List Char) : List Char :=
  if stripOnce cs = cs then cs else stripChars (stripOnce cs)
termination_by cs.length
decreasing_by exact length_stripOnce_lt ‹_›

/-- The text without tags and comments, also those that stripping would form. -/
def strip (s : String) : String := String.ofList (stripChars s.toList)

theorem stripOnce_stripChars (cs : List Char) : stripOnce (stripChars cs) = stripChars cs := by
  fun_induction stripChars cs with
  | case1 cs h => exact h
  | case2 cs _ ih => exact ih

end FieldRules.Markup
