import FieldRules.Pattern.Class
import FieldRules.Text.Whole
/-!
# Reading patterns

A pattern is a choice of sequences; the items of a sequence are characters, classes, conditions and
groups, each with any number of repetitions after it. Flags hold from where they are set to the end of
their group.
-/

namespace FieldRules.Pattern

open FieldRules.Text FieldRules.Unicode

/-- An expression that was read, and how deeply its pattern nests. -/
structure Tree where
  expr : Expr
  depth : Nat

namespace Tree

def leaf (e : Expr) : Tree := ⟨e, 0⟩

/-- Several trees under one expression are a level of their own. -/
def join (combine : List Expr → Expr) (ts : List Tree) : Tree :=
  let depth := (ts.map depth).foldl max 0
  ⟨combine (ts.map expr), if ts.length ≥ 2 then depth + 1 else depth⟩

end Tree

/-- The deepest nesting that is read. -/
def maxNesting : Nat := 250

/-- The largest automaton that a pattern may stand for: ten mebibytes at 32 bytes a state. -/
def maxStates : Nat := 10 * 1024 * 1024 / 32

/-! ## Groups -/

/-- A flag as it is written, and its setting in a mode. The flag `U` only turns greed round and the
flag `u` asks for Unicode. -/
def setFlag (m : Mode) (on : Bool) : Char → Option Mode
  | 'i' => some { m with caseless := on }
  | 'm' => some { m with multiline := on }
  | 's' => some { m with dotAll := on }
  | 'R' => some { m with crlf := on }
  | 'u' => some { m with unicode := on }
  | 'x' => some { m with spaced := on }
  | 'U' => some m
  | _ => none

/-- How a list of flags ends. -/
inductive FlagEnd where
  /-- At `)`: the flags hold from here on. -/
  | set
  /-- At `:`: the flags hold in the group that begins here. -/
  | group

/-- Flags up to their end. No flag may stand twice, and a hyphen must be followed by a flag. -/
def flags (m : Mode) (seen : List Char) : List Char → Except Flaw (Mode × FlagEnd × List Char)
  | [] => .error .flag
  | c :: cs =>
    if c == ':' || c == ')' then
      if seen.head? == some '-' then .error .flag
      else if c == ':' then .ok (m, .group, cs)
      else if seen.isEmpty then .error .nothingToRepeat
      else .ok (m, .set, cs)
    else if seen.contains c then .error .flag
    else if c == '-' then flags m (c :: seen) cs
    else match setFlag m (!seen.contains '-') c with
      | some m => flags m (c :: seen) cs
      | none => .error .flag

/-- May a character stand in the name of a group? -/
def isNameChar (isFirst : Bool) (c : Char) : Bool :=
  c == '_' || isAlphabetic c ||
    (!isFirst && (c == '.' || c == '[' || c == ']' || isNumeral c))

/-- The name of a group up to its `>`. -/
def groupName (acc : List Char) : List Char → Except Flaw (String × List Char)
  | [] => .error .groupName
  | c :: cs =>
    if c == '>' then
      if acc.isEmpty then .error .groupName else .ok (String.ofList acc.reverse, cs)
    else if isNameChar acc.isEmpty c then groupName (c :: acc) cs
    else .error .groupName

/-- What an opening parenthesis begins. -/
inductive Opening where
  | flags (m : Mode)
  | group (m : Mode) (names : List String)

/-- The start of a group after its parenthesis, given the names of the groups before it. -/
def opening (m : Mode) (names : List String) (cs : List Char) : Except Flaw (Opening × List Char) :=
  let named (cs : List Char) : Except Flaw (Opening × List Char) := do
    let (name, rest) ← groupName [] cs
    if names.contains name then .error .groupNameTwice else .ok (.group m (name :: names), rest)
  match m.skip cs with
  | '?' :: '=' :: _ | '?' :: '!' :: _ | '?' :: '<' :: '=' :: _ | '?' :: '<' :: '!' :: _ =>
    .error .lookAround
  | '?' :: 'P' :: '<' :: cs => named cs
  | '?' :: '<' :: cs => named cs
  | '?' :: cs => do
    let (m', ending, rest) ← flags m [] cs
    match ending with
    | .set => .ok (.flags m', rest)
    | .group => .ok (.group m' names, rest)
  | cs => .ok (.group m names, cs)

/-! ## Repetitions -/

/-- A number of a repetition, with blanks around it: below 2^32. -/
def count? (m : Mode) (cs : List Char) : Except Flaw (Option Nat × List Char) :=
  let rec digits (acc : List Char) : (fuel : Nat) → List Char → List Char × List Char
    | fuel + 1, c :: cs =>
      if isAsciiDigit c then digits (c :: acc) fuel (m.skip cs) else (acc.reverse, c :: cs)
    | _, cs => (acc.reverse, cs)
  let rec blanks : (fuel : Nat) → List Char → List Char
    | fuel + 1, c :: cs => if isBlank c then blanks fuel (m.skip cs) else c :: cs
    | _, cs => cs
  let (ds, rest) := digits [] cs.length (cs.dropWhile isBlank)
  let rest := blanks rest.length rest
  if ds.isEmpty then .ok (none, rest)
  else if digitsValue 0 ds < bound32 then .ok (some (digitsValue 0 ds), rest)
  else .error .repetition

/-- The bounds of a repetition between braces, after the opening one. -/
def bounds (m : Mode) (cs : List Char) : Except Flaw (Nat × Option Nat × List Char) := do
  let cs := m.skip cs
  if cs.isEmpty then .error .repetition else
  let (low?, rest) ← count? m cs
  let some low := low? | .error .repetition
  match rest with
  | ',' :: rest =>
    match m.skip rest with
    | '\x7d' :: rest => .ok (low, none, rest)
    | rest =>
      let (high?, rest) ← count? m rest
      let some high := high? | .error .repetition
      match rest with
      | '\x7d' :: rest => if low ≤ high then .ok (low, some high, rest) else .error .repetition
      | _ => .error .repetition
  | '\x7d' :: rest => .ok (low, some low, rest)
  | _ => .error .repetition

/-- The rest after the mark of a repetition that takes as little as possible. -/
def dropLazyMark : List Char → List Char
  | '?' :: cs => cs
  | cs => cs

/-! ## Items -/

/-- A character of the pattern, as the class of the characters it matches. -/
def literal (m : Mode) (c : Char) : Expr :=
  .one (if m.caseless then m.closeCase (· == c) else (· == c))

/-- The point: any character but the end of a line. -/
def anyChar (m : Mode) : Except Flaw Expr :=
  if !m.unicode then .error .partOfCharacter
  else .ok (.one fun c => m.dotAll || (c != '\n' && !(m.crlf && c == '\r')))

def lineStart (m : Mode) : Expr := .look (if m.multiline then .lineStart m.crlf else .textStart)

def lineEnd (m : Mode) : Expr := .look (if m.multiline then .lineEnd m.crlf else .textEnd)

/-- An item that is neither a group nor a class in brackets. -/
def item (m : Mode) : List Char → Except Flaw (Expr × List Char)
  | [] => .ok (.empty, [])
  | '\\' :: cs => do
    let (atom, rest) ← escape m cs
    match atom with
    | .char c => .ok (literal m c, rest)
    | .set s => .ok (.one s, rest)
    | .look l => .ok (.look l, rest)
  | '.' :: cs => do return (← anyChar m, cs)
  | '^' :: cs => .ok (lineStart m, cs)
  | '$' :: cs => .ok (lineEnd m, cs)
  | c :: cs => do return (literal m (← m.checkChar c), cs)

/-! ## Sequences and choices -/

/-- What has been read of a group: the finished alternatives and the items of the current one, last
first. Where flags are set stands `none`, which nothing can repeat. -/
structure OpenGroup where
  mode : Mode
  names : List String
  branches : List Tree := []
  items : List (Option Tree) := []

namespace OpenGroup

def add (g : OpenGroup) (t : Tree) : OpenGroup := { g with items := some t :: g.items }

/-- The current alternative. -/
def branch (g : OpenGroup) : Tree :=
  let ts := g.items.reverse.map fun t => t.getD (.leaf .empty)
  .join .sequence ts

def nextBranch (g : OpenGroup) : OpenGroup := { g with branches := g.branch :: g.branches, items := [] }

def close (g : OpenGroup) : Tree := .join .choice (g.branch :: g.branches).reverse

/-- Repeats the last item. -/
def repeatLast (g : OpenGroup) (low : Nat) (high : Option Nat) : Except Flaw OpenGroup :=
  match g.items with
  | some t :: rest =>
    .ok { g with items := some ⟨.repeated t.expr low high, t.depth + 1⟩ :: rest }
  | _ => .error .nothingToRepeat

end OpenGroup

/-- The rest of a group, up to its closing parenthesis or the end of the pattern. Each step takes a
character. -/
def groupRest : (fuel : Nat) → OpenGroup → List Char → Except Flaw (OpenGroup × List Char)
  | 0, _, _ => .error .tooDeep
  | fuel + 1, g, cs =>
    match g.mode.skip cs with
    | [] => .ok (g, [])
    | ')' :: cs => .ok (g, ')' :: cs)
    | '|' :: cs => groupRest fuel g.nextBranch cs
    | '(' :: cs => do
      match ← opening g.mode g.names cs with
      | (.flags m, rest) => groupRest fuel { g with mode := m, items := none :: g.items } rest
      | (.group m names, rest) =>
        let (inner, rest) ← groupRest fuel { mode := m, names } rest
        match rest with
        | ')' :: rest =>
          let t := inner.close
          groupRest fuel { g.add ⟨t.expr, t.depth + 1⟩ with names := inner.names } rest
        | _ => .error .unclosedGroup
    | '[' :: cs => do
      let (c, rest) ← bracketClass g.mode cs
      groupRest fuel (g.add ⟨.one c.set, c.depth⟩) rest
    | '?' :: cs => do groupRest fuel (← g.repeatLast 0 (some 1)) (dropLazyMark cs)
    | '*' :: cs => do groupRest fuel (← g.repeatLast 0 none) (dropLazyMark cs)
    | '+' :: cs => do groupRest fuel (← g.repeatLast 1 none) (dropLazyMark cs)
    | '\x7b' :: cs => do
      let _ ← g.repeatLast 0 none
      let (low, high, rest) ← bounds g.mode cs
      groupRest fuel (← g.repeatLast low high) (dropLazyMark (g.mode.skip rest))
    | cs => do
      let (e, rest) ← item g.mode cs
      groupRest fuel (g.add (.leaf e)) rest

/-- The expression that a pattern writes. -/
def parse (m : Mode) (pattern : List Char) : Except Flaw Expr := do
  let (g, rest) ← groupRest (pattern.length + 1) { mode := m, names := [] } pattern
  if !rest.isEmpty then .error .unopenedGroup else
  let t := g.close
  if t.depth > maxNesting then .error .tooDeep
  else if t.expr.states > maxStates then .error .tooLarge
  else .ok t.expr

end FieldRules.Pattern
