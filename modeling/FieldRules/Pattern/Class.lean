import FieldRules.Pattern.Escape
/-!
# Classes in brackets

A class lists characters, ranges, escapes, named ASCII classes and further classes in brackets. The
operators `&&`, `--` and `~~` combine what stands before them with what stands between them and the
next operator. Case is closed before an operator applies and before a class is turned round.
-/

namespace FieldRules.Pattern

open FieldRules.Text FieldRules.Unicode

/-- A class that was read, and how deeply it nests. -/
structure ClassTree where
  set : CharSet
  depth : Nat

namespace ClassTree

def leaf (s : CharSet) : ClassTree := ⟨s, 0⟩

def single (c : Char) : ClassTree := leaf (· == c)

/-- The union of the listed items, last first. Two items or more are a level of their own. -/
def union (items : List ClassTree) : ClassTree :=
  let depth := (items.map depth).foldl max 0
  { set := fun c => items.any fun i => i.set c
    depth := if items.length ≥ 2 then depth + 1 else depth }

end ClassTree

/-- An operator between classes. -/
inductive ClassOp where
  | intersection
  | difference
  | symmetricDifference

def ClassOp.apply : ClassOp → CharSet → CharSet → CharSet
  | .intersection, s, t => fun c => s c && t c
  | .difference, s, t => fun c => s c && !t c
  | .symmetricDifference, s, t => fun c => s c != t c

/-- The ASCII classes that are written between `[:` and `:]`. -/
def asciiNamed? : String → Option CharSet
  | "alnum" => some fun c => isAsciiDigit c || isAsciiLetter c
  | "alpha" => some isAsciiLetter
  | "ascii" => some fun c => c.toNat < 0x80
  | "blank" => some fun c => c == '\t' || c == ' '
  | "cntrl" => some fun c => c.toNat < 0x20 || c.toNat == 0x7F
  | "digit" => some isAsciiDigit
  | "graph" => some fun c => 0x21 ≤ c.toNat && c.toNat ≤ 0x7E
  | "lower" => some fun c => 'a' ≤ c && c ≤ 'z'
  | "print" => some fun c => 0x20 ≤ c.toNat && c.toNat ≤ 0x7E
  | "punct" => some fun c => 0x21 ≤ c.toNat && c.toNat ≤ 0x7E && !isAsciiDigit c && !isAsciiLetter c
  | "space" => some isAsciiBlank
  | "upper" => some fun c => 'A' ≤ c && c ≤ 'Z'
  | "word" => some isAsciiWord
  | "xdigit" => some isHexDigit
  | _ => none

/-- A named ASCII class, after its bracket. What is no such class is read as a class in brackets. -/
def asciiClass? (cs : List Char) : Option (Bool × CharSet × List Char) :=
  match cs with
  | ':' :: cs =>
    let (negated, cs) := match cs with
      | '^' :: cs => (true, cs)
      | cs => (false, cs)
    match cutAt (· == ':') cs with
    | some (name, ']' :: rest) => (asciiNamed? (String.ofList name)).map fun s => (negated, s, rest)
    | _ => none
  | _ => none

/-- One end of a range or a whole item: a character as it stands, or an escape. -/
def classAtom (m : Mode) : List Char → Except Flaw (Atom × List Char)
  | [] => .error .unclosedClass
  | '\\' :: cs => escape m cs
  | c :: cs => do return (.char (← m.checkChar c), cs)

/-- A character, a range or an escape. A hyphen before the closing bracket or before another hyphen
makes no range. -/
def classItem (m : Mode) (cs : List Char) : Except Flaw (ClassTree × List Char) := do
  let (first, cs) ← classAtom m cs
  match m.skip cs with
  | [] => .error .unclosedClass
  | '-' :: cs' =>
    if m.peek cs' == some ']' || m.peek cs' == some '-' then finish first ('-' :: cs') else do
    let (last, rest) ← classAtom m (m.skip cs')
    match first, last with
    | .char a, .char b =>
      if a ≤ b then .ok (.leaf fun c => a ≤ c && c ≤ b, rest) else .error .classRange
    | _, _ => .error .classRange
  | cs => finish first cs
where
  finish : Atom → List Char → Except Flaw (ClassTree × List Char)
    | .char c, cs => .ok (.single c, cs)
    | .set s, cs => .ok (.leaf s, cs)
    | .look _, _ => .error .classItem

/-- What has been read of a class: the operand before the last operator, and the items since then. -/
structure OpenClass where
  negated : Bool
  pending : Option (ClassOp × ClassTree) := none
  items : List ClassTree := []

namespace OpenClass

/-- The class up to here, with the last operator applied. -/
def operand (m : Mode) (o : OpenClass) : ClassTree :=
  let last := ClassTree.union o.items
  match o.pending with
  | none => last
  | some (op, first) =>
    let fold (s : CharSet) := if m.caseless then m.closeCase s else s
    { set := op.apply (fold first.set) (fold last.set), depth := max first.depth last.depth + 1 }

/-- The class after its closing bracket. -/
def close (m : Mode) (o : OpenClass) : Except Flaw ClassTree := do
  let t := o.operand m
  return { set := ← m.checkClass (m.classOf o.negated t.set), depth := t.depth + 1 }

end OpenClass

/-- Hyphens at the start of a class, which stand for themselves. -/
def leadingHyphens (m : Mode) (items : List ClassTree) : (fuel : Nat) → List Char →
    List ClassTree × List Char
  | fuel + 1, '-' :: cs => leadingHyphens m (.single '-' :: items) fuel (m.skip cs)
  | _, cs => (items, cs)

/-- The start of a class after its bracket: whether it is turned round, the hyphens, and a closing
bracket that stands for itself because an empty class cannot be written. -/
def openClass (m : Mode) (cs : List Char) : OpenClass × List Char :=
  let cs := m.skip cs
  let (negated, cs) := match cs with
    | '^' :: cs => (true, m.skip cs)
    | cs => (false, cs)
  let (items, cs) := leadingHyphens m [] cs.length cs
  match items, cs with
  | [], ']' :: cs => ({ negated, items := [.single ']'] }, m.skip cs)
  | items, cs => ({ negated, items }, cs)

/-- The rest of a class up to its closing bracket. Each step takes a character. -/
def classRest (m : Mode) : (fuel : Nat) → OpenClass → List Char → Except Flaw (ClassTree × List Char)
  | 0, _, _ => .error .unclosedClass
  | fuel + 1, o, cs =>
    let add (t : ClassTree) : OpenClass := { o with items := t :: o.items }
    let operator (op : ClassOp) (cs : List Char) :=
      classRest m fuel { o with pending := some (op, o.operand m), items := [] } cs
    match m.skip cs with
    | [] => .error .unclosedClass
    | '[' :: cs =>
      match asciiClass? cs with
      | some (negated, s, rest) => do
        let s ← m.checkClass (m.classOf negated s)
        classRest m fuel (add (.leaf s)) rest
      | none => do
        let (inner, cs) := openClass m cs
        let (t, rest) ← classRest m fuel inner cs
        classRest m fuel (add t) rest
    | ']' :: cs => do return (← o.close m, cs)
    | '&' :: '&' :: cs => operator .intersection cs
    | '-' :: '-' :: cs => operator .difference cs
    | '~' :: '~' :: cs => operator .symmetricDifference cs
    | cs => do
      let (t, rest) ← classItem m cs
      classRest m fuel (add t) rest

/-- A class in brackets, after the opening one. -/
def bracketClass (m : Mode) (cs : List Char) : Except Flaw (ClassTree × List Char) :=
  let (o, rest) := openClass m cs
  classRest m (cs.length + 1) o rest

end FieldRules.Pattern
