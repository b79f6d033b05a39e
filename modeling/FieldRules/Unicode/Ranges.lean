/-!
# Tables of code points

Two shapes of table: ranges, and ranges walked with a step (scripts that pair capitals with small
letters alternate them).
-/

namespace FieldRules.Unicode

/-- First and last code point of each range, in rising order. -/
abbrev Ranges := List (Nat × Nat)

/-- First and last code point of each range and the step between its members. -/
abbrev Strides := List (Nat × Nat × Nat)

/-- Does some range of the table hold the character? -/
def Ranges.has (t : Ranges) (c : Char) : Bool :=
  t.any fun (first, last) => first ≤ c.toNat && c.toNat ≤ last

/-- Does some stepped range of the table hold the character? -/
def Strides.has (t : Strides) (c : Char) : Bool :=
  t.any fun (first, last, step) =>
    first ≤ c.toNat && c.toNat ≤ last && (c.toNat - first) % step == 0

end FieldRules.Unicode
