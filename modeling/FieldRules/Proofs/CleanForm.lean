import FieldRules.Proofs.Denial
import FieldRules.Proofs.Leaves
import FieldRules.Proofs.Scanning
/-!
# Trees that cleaning leaves as they are

Cleaning makes of every text one that it would leave as it is: without outer blanks, without a `<` that opens markup
and without characters left to escape, as far as the policy asks for it (`isClean_cleanText`). It leaves just those
as they are (`cleanText_eq_self_iff`), and just those trees in which they are the only texts and none is blank
(`cleanTree_eq_self_iff`). So a tree that has been cleaned is not changed by cleaning it again.
-/

namespace FieldRules

/-! ## Texts in which nothing is left to escape -/

namespace Markup

open FieldRules.Text

/-- No character says anything to a page, but for an `&` that begins an entity. -/
def Escaped (cs : List Char) : Prop :=
  ∀ c rest, c :: rest <:+ cs → c ∈ special → c = '&' ∧ BeginsEntity rest

/-- What is taken up to a semicolon is all that stands before it, if the test holds of that and not of the
semicolon. -/
theorem takeWhile_semicolon {p : Char → Bool} {xs : List Char} (hxs : ∀ c ∈ xs, p c = true) (hp : p ';' = false)
    (tail : List Char) : (xs ++ ';' :: tail).takeWhile p = xs := by
  rw [List.takeWhile_append_of_pos hxs, List.takeWhile_cons_of_neg (by simp [hp]), List.append_nil]

theorem isEntity_of_beginsEntity {rest : List Char} (h : BeginsEntity rest) : isEntity rest = true := by
  obtain ⟨body, tail, hbody, rfl⟩ := h
  cases hbody with
  | @decimal digits h1 h7 hd =>
    have htake := takeWhile_semicolon hd (by decide) tail
    cases digits with
    | nil => cases h1
    | cons x xs =>
      have hend : (x :: (xs ++ ';' :: tail))[(x :: xs).length]? = some ';' := by simp
      rw [List.cons_append] at htake
      simp only [List.cons_append, isEntity, htake, hend, Bool.or_eq_true, Bool.and_eq_true, decide_eq_true_eq]
      exact .inl ⟨⟨h1, h7⟩, rfl⟩
  | @hex x digits hx h1 h6 hd =>
    have htake := takeWhile_semicolon hd (by decide) tail
    rcases hx with rfl | rfl <;> simp [isEntity, htake, h1, h6]
  | @name c cs hc h1 h31 hcs =>
    have hcs' : ∀ d ∈ cs, (isAsciiLetter d || isAsciiDigit d) = true := fun d hd => by simpa using hcs d hd
    have htake := takeWhile_semicolon hcs' (by decide) tail
    have hhash : c ≠ '#' := by
      rintro rfl
      exact absurd hc (by decide)
    rw [List.cons_append, isEntity]
    · simp [htake, hc, h1, h31]
    · intro x xs hx
      exact absurd hx hhash

theorem escapeChar_of_escaped {c : Char} {rest : List Char} (h : c ∈ special → c = '&' ∧ BeginsEntity rest) :
    escapeChar c rest = [c] := by
  by_cases hc : c ∈ special
  · obtain ⟨rfl, hrest⟩ := h hc
    simp [escapeChar, isEntity_of_beginsEntity hrest]
  · simp only [special, List.mem_cons, List.not_mem_nil, or_false, not_or] at hc
    simp [escapeChar, hc]

theorem escaped_escapeChars (cs : List Char) : Escaped (escapeChars cs) := by
  intro c rest hsuffix hc
  have hamp : c = '&' := by
    by_contra hne
    exact not_mem_escapeChars hc hne cs (hsuffix.subset List.mem_cons_self)
  refine ⟨hamp, ?_⟩
  rw [hamp] at hsuffix
  exact beginsEntity_of_suffix_escapeChars hsuffix

theorem escapeChars_eq_self_iff {cs : List Char} : escapeChars cs = cs ↔ Escaped cs := by
  constructor
  · intro h
    rw [← h]
    exact escaped_escapeChars cs
  · intro h
    induction cs with
    | nil => rfl
    | cons c cs ih =>
      have hrest : Escaped cs := fun d rest hd => h d rest (hd.trans (List.suffix_cons c cs))
      rw [escapeChars, escapeChar_of_escaped (h c cs (List.suffix_refl _)), ih hrest]
      rfl

/-- An escaped text has no `<` at all. -/
theorem inert_escapeChars (cs : List Char) : Inert (escapeChars cs) := by
  intro c hc
  exact absurd (hc.subset List.mem_cons_self) (not_mem_escapeChars (by decide) (by decide) cs)

end Markup

/-! ## Texts in clean form -/

namespace Policy

/-- A text of which no step of cleaning finds anything to do. -/
structure IsClean (policy : Policy) (s : String) : Prop where
  trimmed : Text.Trimmed s.toList
  inert : policy.strip = true → Markup.Inert s.toList
  escaped : policy.html = true → Markup.Escaped s.toList

section
variable {policy : Policy}

theorem trimmed_plainText (policy : Policy) (s : String) : Text.Trimmed (policy.plainText s).toList := by
  unfold plainText
  split
  · rw [Text.toList_trim]
    exact Text.trimmed_trimChars _
  · rw [Text.toList_trim]
    exact Text.trimmed_trimChars _

/-- The trim that follows stripping opens nothing again: what it leaves is a part of what stripping has left. -/
theorem inert_plainText (hstrip : policy.strip = true) (s : String) : Markup.Inert (policy.plainText s).toList := by
  rw [plainText, if_pos hstrip, Text.toList_trim, Markup.strip, String.toList_ofList]
  exact (Markup.inert_stripChars _).of_isInfix (Text.trimChars_isInfix _)

theorem plainText_of_isClean {s : String} (h : policy.IsClean s) : policy.plainText s = s := by
  have htrim : Text.trim s = s := Text.trim_eq_self_iff.2 h.trimmed
  unfold plainText
  by_cases hstrip : policy.strip = true
  · have hstripped : Markup.strip s = s := by
      rw [Markup.strip, Markup.stripChars_eq_self_iff.2 (h.inert hstrip), String.ofList_toList]
    rw [if_pos hstrip, htrim, hstripped, htrim]
  · rw [if_neg hstrip, htrim]

/-- No step undoes another: what comes out of the last one is as all of them want it. -/
theorem isClean_cleanText (policy : Policy) (s : String) : policy.IsClean (policy.cleanText s) := by
  rw [cleanText_eq]
  by_cases hhtml : policy.html = true
  · -- Escaping comes last: it writes no blank at the ends, and leaves no `<` for stripping to find.
    rw [if_pos hhtml, Markup.escape]
    refine ⟨?_, fun _ => ?_, fun _ => ?_⟩
    · rw [String.toList_ofList]
      exact Markup.trimmed_escapeChars (trimmed_plainText policy s)
    · rw [String.toList_ofList]
      exact Markup.inert_escapeChars _
    · rw [String.toList_ofList]
      exact Markup.escaped_escapeChars _
  · rw [if_neg hhtml]
    exact ⟨trimmed_plainText policy s, fun hstrip => inert_plainText hstrip s, fun h => absurd h hhtml⟩

theorem cleanText_eq_self_iff {s : String} : policy.cleanText s = s ↔ policy.IsClean s := by
  constructor
  · intro h
    rw [← h]
    exact isClean_cleanText policy s
  · intro h
    rw [cleanText_eq, plainText_of_isClean h]
    by_cases hhtml : policy.html = true
    · rw [if_pos hhtml, Markup.escape, Markup.escapeChars_eq_self_iff.2 (h.escaped hhtml), String.ofList_toList]
    · rw [if_neg hhtml]

end

/-! ## Trees in clean form -/

/-- A tree that has no blank leaves, and whose texts are in clean form. -/
def CleanNode (policy : Policy) (v : Value) : Prop :=
  ∀ path node, v.At path node → node.isBlank = false ∧ ∀ s, node = .text s → policy.IsClean s

/-- Fields, none of them the policy's own, that are in clean form unless they are passed through. -/
def CleanFields (policy : Policy) (untouched : List String) (fields : List (String × Value)) : Prop :=
  ∀ e ∈ fields, e.1 ≠ policyKey ∧ (e.1 ∉ untouched → policy.CleanNode e.2)

/-- A tree that cleaning has nothing to do on. A tree that is no map has no fields. -/
def CleanTree (policy : Policy) (untouched : List String) : Value → Prop
  | .map fields => policy.CleanFields untouched fields
  | _ => True

section
variable {policy : Policy} {untouched : List String} {fields : List (String × Value)}

theorem clean_eq_text {v : Value} {t : String} (h : policy.clean v = .text t) : ∃ s, t = policy.cleanText s := by
  cases v <;> simp only [clean, reduceCtorEq, Value.text.injEq] at h
  exact ⟨_, h.symm⟩

/-- What cleaning keeps of a node is in clean form. -/
theorem cleanNode_clean {v : Value} (h : (policy.clean v).isBlank = false) : policy.CleanNode (policy.clean v) := by
  intro path node hat
  obtain ⟨n, -, hnode, hblank⟩ := (clean_at h).1 hat
  refine ⟨hblank, ?_⟩
  intro t ht
  obtain ⟨s, rfl⟩ := clean_eq_text (hnode ▸ ht)
  exact isClean_cleanText policy s

theorem CleanNode.not_blank {v : Value} (h : policy.CleanNode v) : v.isBlank = false := (h [] v (.root v)).1

theorem CleanNode.of_mem {entries : List (String × Value)} (h : policy.CleanNode (.map entries))
    {e : String × Value} (he : e ∈ entries) : policy.CleanNode e.2 := by
  intro path node hat
  exact h (e.1 :: path) node (.entry he hat)

theorem cleanEntries_eq_self {entries : List (String × Value)}
    (h : ∀ e ∈ entries, policy.clean e.2 = e.2 ∧ e.2.isBlank = false) : cleanEntries policy entries = entries := by
  induction entries with
  | nil => rfl
  | cons e es ih =>
    obtain ⟨hclean, hblank⟩ := h e List.mem_cons_self
    have hrest := ih fun d hd => h d (List.mem_cons_of_mem e hd)
    simp [cleanEntries, hclean, hblank, hrest]

theorem clean_eq_self {v : Value} (h : policy.CleanNode v) : policy.clean v = v := by
  induction v using Value.leafInduction with
  | leaf v hv =>
    cases v with
    | text s => rw [clean, cleanText_eq_self_iff.2 ((h [] _ (.root _)).2 s rfl)]
    | map => cases hv
    | null | bool | int | float | moment | upload => rfl
  | map entries ih =>
    have hentries : cleanEntries policy entries = entries := by
      apply cleanEntries_eq_self
      intro e he
      exact ⟨ih e he (h.of_mem he), (h.of_mem he).not_blank⟩
    rw [clean, hentries]

theorem cleanFields_clean (policy : Policy) (untouched : List String) (fields : List (String × Value)) :
    policy.CleanFields untouched (policy.cleanFields untouched fields) := by
  rintro ⟨key, w⟩ he
  obtain ⟨hkey, v, -, hw⟩ := mem_cleanFields.1 he
  refine ⟨hkey, ?_⟩
  intro htouched
  rw [if_neg htouched] at hw
  obtain ⟨rfl, hblank⟩ := hw
  exact cleanNode_clean hblank

theorem cleanFields_eq_self (h : policy.CleanFields untouched fields) :
    policy.cleanFields untouched fields = fields := by
  have hremove : Keyed.remove fields policyKey = fields := by
    rw [Keyed.remove, List.filter_eq_self]
    intro e he
    simpa using (h e he).1
  have hkeep : ∀ e ∈ fields, policy.cleanField untouched e = some e := by
    intro e he
    by_cases htouched : e.1 ∈ untouched
    · simp [cleanField, htouched]
    · have hnode := (h e he).2 htouched
      simp [cleanField, htouched, clean_eq_self hnode, hnode.not_blank]
  rw [cleanFields, hremove, List.filterMap_congr hkeep, List.filterMap_some]

theorem cleanTree_eq_self_iff {tree : Value} :
    policy.cleanTree untouched tree = tree ↔ policy.CleanTree untouched tree := by
  cases tree with
  | map fields =>
    rw [cleanTree, CleanTree, Value.map.injEq]
    constructor
    · intro h
      rw [← h]
      exact cleanFields_clean policy untouched fields
    · exact cleanFields_eq_self
  | null | bool | int | float | text | moment | upload => exact iff_of_true rfl trivial

end

/-- Cleaning a tree again changes nothing: no field is left out, and no leaf is another. -/
theorem cleanTree_cleanTree (policy : Policy) (untouched : List String) (tree : Value) :
    policy.cleanTree untouched (policy.cleanTree untouched tree) = policy.cleanTree untouched tree := by
  rw [cleanTree_eq_self_iff]
  cases tree with
  | map fields => exact cleanFields_clean policy untouched fields
  | null | bool | int | float | text | moment | upload => trivial

end Policy

end FieldRules
