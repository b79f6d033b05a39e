import FieldRules.Proofs.NumberTest
/-!
# Drawing a number out of a text

The draft of a number is kept as characters and flags. It always stands for the parts of a number
(`NumberText.step_draft`), of which only the end may be loose: a point without digits behind it, or a power of ten
without digits. What is drawn out are the parts without the loose end (`extractNumber_eq`).
-/

namespace FieldRules

open Text Unicode

/-! ## Drafts -/

/-- May a character stand at the end of a draft and be no part of a number? -/
def isLoose (c : Char) : Bool := c == '.' || c == 'e' || c == '+' || c == '-'

theorem isLoose_of_isAsciiDigit {c : Char} (h : isAsciiDigit c = true) : isLoose c = false := by
  rw [Bool.eq_false_iff]
  intro hloose
  simp only [isLoose, Bool.or_eq_true, beq_iff_eq, or_assoc] at hloose
  rcases hloose with rfl | rfl | rfl | rfl <;> exact absurd h (by decide)

/-- The number of a whole draft, less its loose end. -/
def Draft.text? (d : Draft) : Option String :=
  if !d.seenDigit then none else
  let cs := (d.out.dropWhile isLoose).reverse
  if cs.isEmpty then none else some (String.ofList cs)

namespace NumberText

/-- The digits of the power of ten. -/
def powerDigits (n : NumberText) : List Char := (n.power.map (·.digits)).getD []

/-- All digits, in order. -/
def digits (n : NumberText) : List Char := n.whole ++ n.decimals ++ n.powerDigits

/-- The draft that stands for these parts. -/
def draft (n : NumberText) : Draft where
  out := n.chars.reverse
  seenDigit := !(n.whole ++ n.decimals).isEmpty
  seenPoint := n.fraction.isSome
  seenExponent := n.power.isSome

/-- What parts of a number are drawn out of texts: the digits are ASCII digits, and a power of ten has a small `e` and
comes after a digit. -/
structure Drawn (n : NumberText) : Prop where
  digits : ∀ c ∈ n.digits, isAsciiDigit c = true
  small : ∀ p ∈ n.power, p.capital = false
  ne_nil : n.power.isSome = true → n.whole ++ n.decimals ≠ []

/-- More digits at the end. -/
def addDigits (n : NumberText) (ds : List Char) : NumberText :=
  match n.power, n.fraction with
  | some p, _ => { n with power := some { p with digits := p.digits ++ ds } }
  | none, some es => { n with fraction := some (es ++ ds) }
  | none, none => { n with whole := n.whole ++ ds }

/-- The parts after one more character. -/
def take (isFirst : Bool) (n : NumberText) (c : Char) : NumberText :=
  if isAsciiDigit c then n.addDigits [c]
  else if c = '+' ∨ c = '-' then
    if isFirst then { n with sign := some (c == '-') }
    else if n.power = some {} then { n with power := some { sign := some (c == '-') } }
    else n
  else if c = '.' ∨ c = ',' then
    if n.fraction = none ∧ n.power = none then { n with fraction := some [] } else n
  else if c = 'e' ∨ c = 'E' then
    if n.whole ++ n.decimals ≠ [] ∧ n.power = none then { n with power := some {} } else n
  else n

theorem drawn_empty : Drawn {} where
  digits c hc := by cases hc
  small p hp := by cases hp
  ne_nil h := by cases h

theorem chars_addDigits (n : NumberText) (ds : List Char) : (n.addDigits ds).chars = n.chars ++ ds := by
  fun_cases addDigits n ds <;> simp_all [chars, powerChars, fractionChars, PowerText.chars]

theorem digits_addDigits (n : NumberText) (ds : List Char) : (n.addDigits ds).digits = n.digits ++ ds := by
  fun_cases addDigits n ds <;> simp_all [digits, decimals, powerDigits]

theorem e_not_mem_signText (sign : Option Bool) : 'e' ∉ signText sign := fun he => by
  rcases mem_signText he with he | he <;> exact absurd he (by decide)

section
variable {n : NumberText} (h : n.Drawn)
include h

theorem e_not_mem_digits {ds : List Char} (hds : ∀ c ∈ ds, c ∈ n.digits) : 'e' ∉ ds :=
  fun he => absurd (h.digits 'e' (hds 'e' he)) (by decide)

/-- Before a power of ten there is no `e`. -/
theorem e_not_mem_chars (hpower : n.power = none) : 'e' ∉ n.chars := by
  have hwhole : 'e' ∉ n.whole := e_not_mem_digits h fun c hc => by simp [digits, hc]
  have hfraction : 'e' ∉ fractionChars n.fraction := by
    cases hn : n.fraction with
    | none => exact List.not_mem_nil
    | some ds =>
      have hdecimals : 'e' ∉ ds := e_not_mem_digits h fun c hc => by simp [digits, decimals, hn, hc]
      simpa [fractionChars] using hdecimals
  simp [chars, hpower, powerChars, e_not_mem_signText, hwhole, hfraction]

/-- The last character is an `e` just if a power of ten has begun with nothing behind its `e`. -/
theorem getLast?_chars_eq_e_iff : n.chars.getLast? = some 'e' ↔ n.power = some {} := by
  cases hn : n.power with
  | none =>
    refine iff_of_false (fun hlast => ?_) (fun hpower => by cases hpower)
    exact e_not_mem_chars h hn (List.mem_of_getLast? hlast)
  | some p =>
    obtain ⟨capital, sign, ds⟩ := p
    obtain rfl : capital = false := h.small _ hn
    have hdigits : 'e' ∉ ds := e_not_mem_digits h fun c hc => by simp [digits, powerDigits, hn, hc]
    have hrest : 'e' ∉ signText sign ++ ds := by simp [e_not_mem_signText, hdigits]
    have hchars : n.chars = (signText n.sign ++ (n.whole ++ fractionChars n.fraction)) ++
        'e' :: (signText sign ++ ds) := by
      simp [chars, hn, powerChars, PowerText.chars]
    rw [hchars, List.getLast?_append_of_ne_nil _ (List.cons_ne_nil _ _), List.getLast?_cons]
    by_cases hbare : signText sign ++ ds = []
    · obtain ⟨hsign, rfl⟩ := List.append_eq_nil_iff.1 hbare
      obtain rfl := signText_eq_nil_iff.1 hsign
      exact iff_of_true rfl rfl
    · refine iff_of_false (fun he => hrest ?_) (fun hpower => ?_)
      · rw [List.getLast?_eq_some_getLast hbare, Option.getD_some] at he
        exact Option.some.inj he ▸ List.getLast_mem hbare
      · cases hpower
        exact hbare rfl

theorem drawn_addDigits {ds : List Char} (hds : ∀ c ∈ ds, isAsciiDigit c = true) : (n.addDigits ds).Drawn where
  digits c hc := by
    rw [digits_addDigits, List.mem_append] at hc
    exact hc.elim (h.digits c) (hds c)
  small := by
    unfold addDigits
    split
    · rename_i q hq
      rintro p ⟨⟩
      exact h.small q hq
    · exact h.small
    · exact h.small
  ne_nil := by
    unfold addDigits
    split
    · rename_i q hq
      exact fun _ => h.ne_nil (by simp [hq])
    · rename_i hpower hfraction
      simp [hpower]
    · rename_i hpower hfraction
      simp [hpower]

end

/-- What one more character may do to the parts. -/
inductive Takes (n : NumberText) (c : Char) : NumberText → Prop where
  | digit (hc : isAsciiDigit c = true) : Takes n c (n.addDigits [c])
  | sign (hc : isAsciiDigit c = false) (sign : Option Bool) : Takes n c { n with sign }
  | powerSign (hc : isAsciiDigit c = false) (sign : Option Bool) (hpower : n.power = some {}) :
      Takes n c { n with power := some { sign } }
  | point (hc : isAsciiDigit c = false) (hfraction : n.fraction = none) (hpower : n.power = none) :
      Takes n c { n with fraction := some [] }
  | power (hc : isAsciiDigit c = false) (hne : n.whole ++ n.decimals ≠ []) (hpower : n.power = none) :
      Takes n c { n with power := some {} }
  | skip (hc : isAsciiDigit c = false) : Takes n c n

theorem takes_take (n : NumberText) (isFirst : Bool) (c : Char) : n.Takes c (n.take isFirst c) := by
  cases hc : isAsciiDigit c with
  | true =>
    rw [take, if_pos hc]
    exact .digit hc
  | false =>
    rw [take, if_neg (by simp [hc])]
    split_ifs with hsign hfirst hbare hpoint hnew he hstarts
    · exact .sign hc _
    · exact .powerSign hc _ hbare
    · exact .skip hc
    · exact .point hc hnew.1 hnew.2
    · exact .skip hc
    · exact .power hc hstarts.1 hstarts.2
    · exact .skip hc
    · exact .skip hc

theorem digits_take (n : NumberText) (isFirst : Bool) (c : Char) :
    (n.take isFirst c).digits = n.digits ++ [c].filter isAsciiDigit := by
  have htake := takes_take n isFirst c
  generalize n.take isFirst c = m at htake ⊢
  cases htake with
  | digit hc => simp [digits_addDigits, hc]
  | sign hc sign => simp [hc, digits, decimals, powerDigits]
  | powerSign hc sign hpower => simp [hc, digits, decimals, powerDigits, hpower]
  | point hc hfraction hpower => simp [hc, digits, decimals, powerDigits, hfraction]
  | power hc hne hpower => simp [hc, digits, decimals, powerDigits, hpower]
  | skip hc => simp [hc]

section
variable {n : NumberText} (h : n.Drawn)
include h

theorem drawn_take (isFirst : Bool) (c : Char) : (n.take isFirst c).Drawn := by
  have hdigits : ∀ d ∈ (n.take isFirst c).digits, isAsciiDigit d = true := by
    intro d hd
    rw [digits_take, List.mem_append] at hd
    exact hd.elim (h.digits d) fun hd => (List.mem_filter.1 hd).2
  have htake := takes_take n isFirst c
  generalize n.take isFirst c = m at hdigits htake ⊢
  cases htake with
  | digit hc => exact drawn_addDigits h (by simpa using hc)
  | sign hc sign => exact { digits := hdigits, small := h.small, ne_nil := h.ne_nil }
  | powerSign hc sign hpower =>
    exact { digits := hdigits, small := fun p hp => by cases hp; rfl, ne_nil := fun _ => h.ne_nil (by simp [hpower]) }
  | point hc hfraction hpower => exact { digits := hdigits, small := h.small, ne_nil := by simp [hpower] }
  | power hc hne hpower =>
    exact { digits := hdigits, small := fun p hp => by cases hp; rfl, ne_nil := fun _ => hne }
  | skip hc => exact h

theorem draft_addDigits {ds : List Char} (hds : ds ≠ []) : (n.addDigits ds).draft =
    { n.draft with out := ds.reverse ++ n.draft.out, seenDigit := true } := by
  have hdigit : ((n.addDigits ds).whole ++ (n.addDigits ds).decimals).isEmpty = false := by
    rw [List.isEmpty_eq_false_iff]
    unfold addDigits
    split
    · rename_i p hpower
      exact h.ne_nil (by simp [hpower])
    · simp [decimals, hds]
    · simp [hds]
  have hfraction : (n.addDigits ds).fraction.isSome = n.fraction.isSome := by
    fun_cases addDigits n ds <;> simp_all
  have hpower : (n.addDigits ds).power.isSome = n.power.isSome := by
    fun_cases addDigits n ds <;> simp_all
  simp only [draft, chars_addDigits, List.reverse_append, hdigit, hfraction, hpower, Bool.not_false]

/-- A step on characters and flags is a step on the parts. -/
theorem step_draft {isFirst : Bool} (hfirst : isFirst = true → n = {}) (c : Char) :
    Draft.step isFirst n.draft c = (n.take isFirst c).draft := by
  have hwants : n.draft.out.head? = some 'e' ↔ n.power = some {} := by
    rw [draft, List.head?_reverse]
    exact getLast?_chars_eq_e_iff h
  have hpoint : n.draft.seenPoint = true ∨ n.draft.seenExponent = true ↔
      ¬ (n.fraction = none ∧ n.power = none) := by
    simp only [draft, Option.isSome_iff_ne_none]
    tauto
  have hmark : n.draft.seenDigit = true ∧ n.draft.seenExponent = false ↔
      n.whole ++ n.decimals ≠ [] ∧ n.power = none := by
    simp [draft]
  simp only [Draft.step, take, Bool.or_eq_true, Bool.and_eq_true, Bool.not_eq_true', beq_iff_eq, hwants, hpoint, hmark]
  by_cases hdigit : isAsciiDigit c = true
  · rw [if_pos hdigit, if_pos hdigit, draft_addDigits h (List.cons_ne_nil _ _)]
    rfl
  rw [if_neg hdigit, if_neg hdigit]
  by_cases hsign : c = '+' ∨ c = '-'
  · have htext : signText (some (c == '-')) = [c] := by
      rcases hsign with rfl | rfl <;> rfl
    rw [if_pos hsign, if_pos hsign]
    cases isFirst with
    | true =>
      rw [hfirst rfl, if_pos (.inl rfl), if_pos rfl]
      simp [draft, chars, htext, fractionChars, powerChars, decimals]
    | false =>
      rw [if_neg Bool.false_ne_true]
      by_cases hbare : n.power = some {}
      · rw [if_pos (.inr hbare), if_pos hbare]
        simp [draft, chars, hbare, powerChars, PowerText.chars, htext, decimals]
      · rw [if_neg (by simp [hbare]), if_neg hbare]
  rw [if_neg hsign, if_neg hsign]
  split_ifs with hkept hnew hmark hnew
  · simp [draft, chars, hnew, fractionChars, powerChars, decimals]
  · rfl
  · simp [draft, chars, hnew, powerChars, PowerText.chars, decimals]
  · rfl
  · rfl

end

/-! ## The whole run -/

/-- The parts that are drawn out of a text. -/
def drawn (isFirst : Bool) : List Char → NumberText
  | [] => {}
  | c :: cs => cs.foldl (take false) (take isFirst {} c)

theorem drawn_cons (isFirst : Bool) (c : Char) (cs : List Char) :
    drawn isFirst (c :: cs) = cs.foldl (take false) (take isFirst {} c) := rfl

theorem drawn_foldl {n : NumberText} (h : n.Drawn) (cs : List Char) : (cs.foldl (take false) n).Drawn := by
  induction cs generalizing n with
  | nil => exact h
  | cons c cs ih => exact ih (drawn_take h false c)

theorem digits_foldl (n : NumberText) (cs : List Char) :
    (cs.foldl (take false) n).digits = n.digits ++ cs.filter isAsciiDigit := by
  induction cs generalizing n with
  | nil => simp
  | cons c cs ih =>
    rw [List.foldl_cons, ih, digits_take, List.append_assoc, ← List.filter_append]
    rfl

theorem foldl_step_draft {n : NumberText} (h : n.Drawn) (cs : List Char) :
    cs.foldl (Draft.step false) n.draft = (cs.foldl (take false) n).draft := by
  induction cs generalizing n with
  | nil => rfl
  | cons c cs ih =>
    rw [List.foldl_cons, step_draft h Bool.false_ne_true.elim, ih (drawn_take h false c)]
    rfl

theorem drawn_drawn (isFirst : Bool) (cs : List Char) : (drawn isFirst cs).Drawn := by
  match cs with
  | [] => exact drawn_empty
  | c :: cs => exact drawn_foldl (drawn_take drawn_empty isFirst c) cs

theorem digits_drawn (isFirst : Bool) (cs : List Char) : (drawn isFirst cs).digits = cs.filter isAsciiDigit := by
  match cs with
  | [] => rfl
  | c :: cs =>
    rw [drawn, digits_foldl, digits_take, List.append_assoc, ← List.filter_append]
    rfl

/-! ## The loose end -/

/-- A number as it is drawn out: no point at its end, and a power of ten with a small `e`. -/
structure Settled (n : NumberText) : Prop extends n.WellFormed isAsciiDigit where
  small : ∀ p ∈ n.power, p.capital = false
  point : n.power = none → n.fraction ≠ some []

/-- The parts without a power of ten that has no digits, and then without a point at the end. -/
def closed (n : NumberText) : NumberText :=
  if n.powerDigits = [] then
    { n with fraction := if n.decimals = [] then none else n.fraction, power := none }
  else n

/-- What stands behind them. -/
def loose (n : NumberText) : List Char :=
  if n.powerDigits = [] then (if n.decimals = [] then fractionChars n.fraction else []) ++ powerChars n.power else []

variable {n : NumberText}

theorem chars_closed (n : NumberText) : n.closed.chars ++ n.loose = n.chars := by
  unfold closed loose
  split_ifs with hpower hdecimals <;> simp [chars, powerChars, fractionChars]

theorem powerDigits_eq_nil_iff : n.powerDigits = [] ↔ ∀ p ∈ n.power, p.digits = [] := by
  cases hn : n.power <;> simp [powerDigits, hn]

theorem decimals_eq_nil_iff : n.decimals = [] ↔ n.fraction = none ∨ n.fraction = some [] := by
  cases hn : n.fraction <;> simp [decimals, hn]

theorem sign_closed (n : NumberText) : n.closed.sign = n.sign := by
  unfold closed
  split <;> rfl

theorem whole_closed (n : NumberText) : n.closed.whole = n.whole := by
  unfold closed
  split <;> rfl

theorem decimals_closed (n : NumberText) : n.closed.decimals = n.decimals := by
  unfold closed
  split_ifs with hpower hdecimals
  · exact hdecimals.symm
  · rfl
  · rfl

theorem digits_closed (n : NumberText) : n.closed.digits = n.digits := by
  have hdigits : n.closed.powerDigits = n.powerDigits := by
    by_cases hpower : n.powerDigits = []
    · rw [closed, if_pos hpower, hpower]
      rfl
    · rw [closed, if_neg hpower]
  rw [digits, digits, whole_closed, decimals_closed, hdigits]

theorem WellFormed.power_eq_none {digit : Char → Bool} (h : n.WellFormed digit) (hdigits : n.powerDigits = []) :
    n.power = none :=
  Option.eq_none_iff_forall_not_mem.2 fun p hp => (h.power p hp).ne_nil (powerDigits_eq_nil_iff.1 hdigits p hp)

/-- The loose end of a number is no part of what is written. -/
theorem decimal_closed {digit : Char → Bool} (h : n.WellFormed digit) : n.closed.decimal = n.decimal := by
  have hpower : n.closed.power = n.power := by
    unfold closed
    split
    · exact (h.power_eq_none ‹_›).symm
    · rfl
  rw [decimal, decimal, sign_closed, whole_closed, decimals_closed, hpower]

theorem Settled.closed_eq (h : n.Settled) : n.closed = n := by
  unfold closed
  split
  · rename_i hdigits
    have hpower := h.power_eq_none hdigits
    have hfraction : (if n.decimals = [] then none else n.fraction) = n.fraction := by
      split
      · exact ((decimals_eq_nil_iff.1 ‹_›).resolve_right (h.point hpower)).symm
      · rfl
    rw [hfraction, ← hpower]
  · rfl

/-- A number that is drawn out ends in a digit. -/
theorem Settled.getLast? (h : n.Settled) : ∃ c, n.chars.getLast? = some c ∧ isAsciiDigit c = true := by
  obtain ⟨front, ds, hchars, hne, hds⟩ :
      ∃ front ds, n.chars = front ++ ds ∧ ds ≠ [] ∧ ∀ c ∈ ds, isAsciiDigit c = true := by
    cases hpower : n.power with
    | some p =>
      refine ⟨signText n.sign ++ n.whole ++ fractionChars n.fraction ++
        (if p.capital then 'E' else 'e') :: signText p.sign, p.digits, ?_, (h.power p hpower).ne_nil,
        (h.power p hpower).digits⟩
      simp [chars, hpower, powerChars, PowerText.chars]
    | none =>
      cases hfraction : n.fraction with
      | some ds =>
        have hne : ds ≠ [] := fun hds => h.point hpower (hds ▸ hfraction)
        refine ⟨signText n.sign ++ n.whole ++ ['.'], ds, ?_, hne, fun c hc => h.decimals c ?_⟩
        · simp [chars, hpower, hfraction, powerChars, fractionChars]
        · simpa [decimals, hfraction] using hc
      | none =>
        have hne : n.whole ≠ [] := by simpa [decimals, hfraction] using h.ne_nil
        refine ⟨signText n.sign, n.whole, ?_, hne, h.whole⟩
        simp [chars, hpower, hfraction, powerChars, fractionChars]
  refine ⟨ds.getLast hne, ?_, hds _ (List.getLast_mem hne)⟩
  rw [hchars, List.getLast?_append_of_ne_nil _ hne, List.getLast?_eq_some_getLast hne]

section
variable (h : n.Drawn)
include h

theorem digits_eq_nil_iff : n.digits = [] ↔ n.whole ++ n.decimals = [] := by
  rw [digits, List.append_eq_nil_iff]
  refine ⟨And.left, fun hnil => ⟨hnil, powerDigits_eq_nil_iff.2 fun p hp => ?_⟩⟩
  exact absurd hnil (h.ne_nil (Option.isSome_of_mem hp))

theorem settled_closed (hdigits : n.digits ≠ []) : n.closed.Settled where
  whole c hc := h.digits c (by simp [digits, whole_closed n ▸ hc])
  decimals c hc := h.digits c (by simp [digits, decimals_closed n ▸ hc])
  ne_nil := by
    rw [whole_closed, decimals_closed]
    exact fun hnil => hdigits ((digits_eq_nil_iff h).2 hnil)
  power := by
    unfold closed
    split
    · rintro p ⟨⟩
    · rename_i hpower
      rintro p hp
      have hp' : n.powerDigits = p.digits := by simp [powerDigits, Option.mem_def.1 hp]
      exact { ne_nil := hp' ▸ hpower, digits := fun c hc => h.digits c (by simp [digits, hp', hc]) }
  small := by
    unfold closed
    split
    · rintro p ⟨⟩
    · exact h.small
  point := by
    unfold closed
    split_ifs with hpower hdecimals
    · simp
    · exact fun _ hfraction => hdecimals (decimals_eq_nil_iff.2 (.inr hfraction))
    · intro hnone
      exact absurd (powerDigits_eq_nil_iff.2 (by simp [hnone])) hpower

theorem isLoose_of_mem_loose {c : Char} (hc : c ∈ n.loose) : isLoose c = true := by
  unfold loose at hc
  split at hc
  · rename_i hpower
    rcases List.mem_append.1 hc with hc | hc
    · split at hc
      · rcases decimals_eq_nil_iff.1 ‹_› with hfraction | hfraction
        · rw [hfraction] at hc
          cases hc
        · rw [hfraction] at hc
          exact List.mem_singleton.1 hc ▸ rfl
      · cases hc
    · cases hp : n.power with
      | none =>
        rw [hp] at hc
        cases hc
      | some p =>
        rw [hp, powerChars, PowerText.chars, h.small p hp, powerDigits_eq_nil_iff.1 hpower p hp, List.append_nil,
          List.mem_cons] at hc
        rcases hc with rfl | hsign
        · rfl
        · rcases mem_signText hsign with rfl | rfl <;> rfl
  · cases hc

/-- What is drawn out has all the digits. -/
theorem text?_draft : n.draft.text? = if n.digits = [] then none else some (String.ofList n.closed.chars) := by
  by_cases hdigits : n.digits = []
  · have hseen : n.draft.seenDigit = false := by simp [draft, (digits_eq_nil_iff h).1 hdigits]
    rw [if_pos hdigits, Draft.text?, hseen]
    rfl
  · have hseen : n.draft.seenDigit = true := by simpa [draft] using hdigits ∘ (digits_eq_nil_iff h).2
    obtain ⟨c, hlast, hc⟩ := (settled_closed h hdigits).getLast?
    have hcut : n.draft.out.dropWhile isLoose = n.closed.chars.reverse := by
      rw [draft, ← chars_closed, List.reverse_append]
      refine dropWhile_run (fun d hd => isLoose_of_mem_loose h (List.mem_reverse.1 hd)) fun d hd => ?_
      rw [List.head?_reverse, hlast] at hd
      exact Option.some.inj hd ▸ isLoose_of_isAsciiDigit hc
    have hne : n.closed.chars.isEmpty = false := by
      rw [List.isEmpty_eq_false_iff]
      intro hnil
      rw [hnil] at hlast
      cases hlast
    rw [if_neg hdigits, Draft.text?, hseen, hcut, List.reverse_reverse]
    simp [hne]

end

end NumberText

/-- What is drawn out of a text. -/
theorem extractNumber_eq (s : String) : extractNumber s =
    if (NumberText.drawn true s.toList).digits = [] then none
    else some (String.ofList (NumberText.drawn true s.toList).closed.chars) := by
  rw [← NumberText.text?_draft (NumberText.drawn_drawn true s.toList)]
  unfold extractNumber
  cases s.toList with
  | nil => rfl
  | cons c cs =>
    have hfirst : Draft.step true {} c = (NumberText.take true {} c).draft :=
      NumberText.step_draft NumberText.drawn_empty (fun _ => rfl) c
    dsimp only
    rw [hfirst, NumberText.foldl_step_draft (NumberText.drawn_take NumberText.drawn_empty true c)]
    rfl

end FieldRules
