import FieldRules.Engine.Clean
import Mathlib.Data.List.Basic
import Mathlib.Data.List.TakeWhile
/-!
# What cleaning makes of a text

`safe_of_deliverText?` says what holds of every text that is delivered, whatever was submitted: it has no outer
blanks, it is empty or says something, and it has no markup that its policy takes out. The steps of cleaning are
taken one at a time: a trim, a strip and an escape each bring their property, and none loses that of another.
-/

namespace FieldRules

/-! ## Outer blanks -/

namespace Text

/-- No blank stands at either end. -/
structure Trimmed (cs : List Char) : Prop where
  first : ∀ c ∈ cs.head?, isBlank c = false
  last : ∀ c ∈ cs.getLast?, isBlank c = false

theorem not_isBlank_head?_dropWhile {cs : List Char} {c : Char} (h : c ∈ (cs.dropWhile isBlank).head?) :
    isBlank c = false := by
  have := List.head?_dropWhile_not isBlank cs
  rw [Option.mem_def.1 h] at this
  exact this

theorem trimEndChars_isPrefix (cs : List Char) : trimEndChars cs <+: cs := by
  have h := List.dropWhile_suffix isBlank (l := cs.reverse)
  rw [← List.reverse_prefix, List.reverse_reverse] at h
  exact h

theorem trimChars_isInfix (cs : List Char) : trimChars cs <:+: cs :=
  (trimEndChars_isPrefix _).isInfix.trans (List.dropWhile_suffix isBlank).isInfix

theorem trimmed_trimChars (cs : List Char) : Trimmed (trimChars cs) := by
  constructor
  · intro c hc
    -- What is left of the start after the end has been cut begins as it did.
    obtain ⟨tail, ht⟩ := trimEndChars_isPrefix (trimStartChars cs)
    have hstart : c ∈ (trimStartChars cs).head? := by
      rw [← ht, List.head?_append, ← trimChars, Option.mem_def.1 hc]
      rfl
    exact not_isBlank_head?_dropWhile hstart
  · intro c hc
    rw [trimChars, trimEndChars, List.getLast?_reverse] at hc
    exact not_isBlank_head?_dropWhile hc

end Text

/-! ## Entities and escaping -/

namespace Markup

open FieldRules.Text

/-- The characters that a page would take for markup. -/
def special : List Char := ['&', '<', '>', '\x22', '\x27']

/-- What stands between the `&` and the semicolon of an entity. -/
inductive EntityBody : List Char → Prop where
  | decimal {digits : List Char} : 1 ≤ digits.length → digits.length ≤ 7 →
      (∀ d ∈ digits, isAsciiDigit d = true) → EntityBody ('#' :: digits)
  | hex {x : Char} {digits : List Char} : x = 'x' ∨ x = 'X' → 1 ≤ digits.length → digits.length ≤ 6 →
      (∀ d ∈ digits, isHexDigit d = true) → EntityBody ('#' :: x :: digits)
  | name {c : Char} {cs : List Char} : isAsciiLetter c = true → 1 ≤ cs.length → cs.length ≤ 31 →
      (∀ c ∈ cs, isAsciiLetter c = true ∨ isAsciiDigit c = true) → EntityBody (c :: cs)

/-- The text goes on, after an `&`, as an entity. -/
def BeginsEntity (rest : List Char) : Prop :=
  ∃ body tail, EntityBody body ∧ rest = body ++ ';' :: tail

/-- What is taken while a test holds, and the character after it. -/
theorem eq_takeWhile_append {p : Char → Bool} {cs : List Char} {c : Char}
    (h : cs[(cs.takeWhile p).length]? = some c) : ∃ tail, cs = cs.takeWhile p ++ c :: tail := by
  obtain ⟨hlt, hc⟩ := List.getElem?_eq_some_iff.1 h
  have htake := List.prefix_iff_eq_take.1 (List.takeWhile_prefix p (l := cs))
  refine ⟨cs.drop ((cs.takeWhile p).length + 1), ?_⟩
  calc cs = cs.take (cs.takeWhile p).length ++ cs.drop (cs.takeWhile p).length :=
        (List.take_append_drop _ _).symm
    _ = _ := by rw [← htake, List.drop_eq_getElem_cons hlt, hc]

theorem beginsEntity_of_isEntity {rest : List Char} (h : isEntity rest = true) : BeginsEntity rest := by
  unfold isEntity at h
  split at h
  · rename_i x cs
    simp only [Bool.or_eq_true, Bool.and_eq_true, decide_eq_true_eq, beq_iff_eq] at h
    rcases h with ⟨⟨h1, h7⟩, hend⟩ | ⟨⟨⟨hx, h1⟩, h6⟩, hend⟩
    · obtain ⟨tail, ht⟩ := eq_takeWhile_append hend
      exact ⟨_, tail, .decimal h1 h7 fun d hd => List.mem_takeWhile_imp hd, congrArg ('#' :: ·) ht⟩
    · obtain ⟨tail, ht⟩ := eq_takeWhile_append hend
      exact ⟨_, tail, .hex hx h1 h6 fun d hd => List.mem_takeWhile_imp hd,
        congrArg ('#' :: x :: ·) ht⟩
  · rename_i c cs _
    simp only [Bool.and_eq_true, decide_eq_true_eq, beq_iff_eq] at h
    obtain ⟨⟨⟨hc, h1⟩, h31⟩, hend⟩ := h
    obtain ⟨tail, ht⟩ := eq_takeWhile_append hend
    exact ⟨_, tail, .name hc h1 h31 fun d hd => by simpa using List.mem_takeWhile_imp hd,
      congrArg (c :: ·) ht⟩
  · cases h

theorem EntityBody.chars {body : List Char} (h : EntityBody body) :
    ∀ c ∈ body ++ [';'], c = '#' ∨ c = ';' ∨ isAsciiLetter c = true ∨ isHexDigit c = true := by
  have hdigit : ∀ d, isAsciiDigit d = true → isHexDigit d = true := by
    intro d hd
    simp [isHexDigit, hd]
  intro c hc
  rcases List.mem_append.1 hc with hc | hc
  · cases h with
    | decimal _ _ hd =>
      rcases List.mem_cons.1 hc with rfl | hc
      · exact .inl rfl
      · exact .inr (.inr (.inr (hdigit c (hd c hc))))
    | hex hx _ _ hd =>
      rcases List.mem_cons.1 hc with rfl | hc
      · exact .inl rfl
      · rcases List.mem_cons.1 hc with rfl | hc
        · rcases hx with rfl | rfl <;> decide
        · exact .inr (.inr (.inr (hd c hc)))
    | name hfirst _ _ hrest =>
      rcases List.mem_cons.1 hc with rfl | hc
      · exact .inr (.inr (.inl hfirst))
      · exact .inr (.inr ((hrest c hc).imp_right (hdigit c)))
  · exact .inr (.inl (List.mem_singleton.1 hc))

/-- What stands in an entity after its `&` says nothing to a page. -/
theorem EntityBody.plain {body : List Char} (h : EntityBody body) : ∀ c ∈ body ++ [';'], c ∉ special := by
  intro c hc hm
  have hchars := h.chars c hc
  simp only [special, List.mem_cons, List.not_mem_nil, or_false] at hm
  rcases hm with rfl | rfl | rfl | rfl | rfl <;> revert hchars <;> decide

/-- A character is written as it is, or as an entity. -/
theorem escapeChar_cases (c : Char) (rest : List Char) :
    (escapeChar c rest = [c] ∧ (c ∈ special → c = '&' ∧ BeginsEntity rest)) ∨
      ∃ body, EntityBody body ∧ escapeChar c rest = '&' :: (body ++ [';']) := by
  unfold escapeChar
  split_ifs with hamp hent hlt hgt hquot hapos
  · exact .inl ⟨by rw [beq_iff_eq.1 hamp], fun _ => ⟨beq_iff_eq.1 hamp, beginsEntity_of_isEntity hent⟩⟩
  · exact .inr ⟨['a', 'm', 'p'], .name rfl (by decide) (by decide) (by simp [isAsciiLetter]), rfl⟩
  · exact .inr ⟨['l', 't'], .name rfl (by decide) (by decide) (by simp [isAsciiLetter]), rfl⟩
  · exact .inr ⟨['g', 't'], .name rfl (by decide) (by decide) (by simp [isAsciiLetter]), rfl⟩
  · exact .inr ⟨['q', 'u', 'o', 't'], .name rfl (by decide) (by decide) (by simp [isAsciiLetter]), rfl⟩
  · refine .inr ⟨['#', 'x', '2', '7'], .hex (.inl rfl) (by decide) (by decide) ?_, rfl⟩
    simp [isHexDigit, isAsciiDigit]
  · refine .inl ⟨rfl, fun hc => ?_⟩
    simp_all [special]

/-- What says nothing to a page is written as it is. -/
theorem escapeChars_append {body : List Char} (h : ∀ c ∈ body, c ∉ special)
    (tail : List Char) : escapeChars (body ++ tail) = body ++ escapeChars tail := by
  induction body with
  | nil => rfl
  | cons c cs ih =>
    have hc := h c List.mem_cons_self
    simp only [special, List.mem_cons, List.not_mem_nil, or_false, not_or] at hc
    simp only [List.cons_append, escapeChars, ih fun d hd => h d (List.mem_cons_of_mem _ hd)]
    simp [escapeChar, hc]

theorem BeginsEntity.escapeChars {rest : List Char} (h : BeginsEntity rest) :
    BeginsEntity (escapeChars rest) := by
  obtain ⟨body, tail, hbody, rfl⟩ := h
  refine ⟨body, Markup.escapeChars tail, hbody, ?_⟩
  rw [escapeChars_append fun c hc => hbody.plain c (List.mem_append_left _ hc)]
  rfl

/-- Of the characters of markup, an escaped text has the `&` only. -/
theorem not_mem_escapeChars {c : Char} (hc : c ∈ special) (hamp : c ≠ '&') (cs : List Char) :
    c ∉ escapeChars cs := by
  induction cs with
  | nil => exact List.not_mem_nil
  | cons d ds ih =>
    rw [escapeChars, List.mem_append, not_or]
    refine ⟨?_, ih⟩
    rcases escapeChar_cases d ds with ⟨he, hd⟩ | ⟨body, hbody, he⟩
    · rw [he, List.mem_singleton]
      rintro rfl
      exact hamp (hd hc).1
    · rw [he, List.mem_cons, not_or]
      exact ⟨hamp, fun hm => hbody.plain c hm hc⟩

theorem amp_mem_escapeChars {c : Char} {cs : List Char} (h : c ∈ cs) (hc : c ∈ special) : '&' ∈ escapeChars cs := by
  induction cs with
  | nil => cases h
  | cons d ds ih =>
    rw [escapeChars, List.mem_append]
    rcases List.mem_cons.1 h with rfl | h
    · rcases escapeChar_cases c ds with ⟨he, hd⟩ | ⟨body, -, he⟩
      · exact .inl (by rw [he, (hd hc).1]; exact List.mem_cons_self)
      · exact .inl (by rw [he]; exact List.mem_cons_self)
    · exact .inr (ih h)

/-- A text that says nothing to a page is what escaping makes of itself, and of nothing else. -/
theorem escapeChars_eq_iff {cs xs : List Char} (hxs : ∀ c ∈ xs, c ∉ special) : escapeChars cs = xs ↔ cs = xs := by
  have hself : ∀ ys, (∀ c ∈ ys, c ∉ special) → escapeChars ys = ys := by
    intro ys hys
    have := escapeChars_append hys []
    simpa [escapeChars] using this
  constructor
  · rintro rfl
    refine (hself cs fun c hc hm => ?_).symm
    exact hxs '&' (amp_mem_escapeChars hc hm) (by decide)
  · rintro rfl
    exact hself _ hxs

/-- Escaping makes no underscore. -/
theorem underscore_mem_of_escapeChars {cs : List Char} (h : '_' ∈ escapeChars cs) : '_' ∈ cs := by
  induction cs with
  | nil => exact h
  | cons c cs ih =>
    rw [escapeChars] at h
    rcases List.mem_append.1 h with h | h
    · rcases escapeChar_cases c cs with ⟨he, -⟩ | ⟨body, hbody, he⟩
      · rw [he] at h
        exact List.mem_singleton.1 h ▸ List.mem_cons_self
      · rw [he] at h
        rcases List.mem_cons.1 h with h | h
        · cases h
        · exact absurd (hbody.chars _ h) (by decide)
    · exact List.mem_cons_of_mem _ (ih h)

/-- A character that a text does not have begins what follows the text. -/
theorem suffix_of_suffix_append {c : Char} {rest body tail : List Char} (h : c :: rest <:+ body ++ tail)
    (hc : c ∉ body) : c :: rest <:+ tail := by
  induction body with
  | nil => exact h
  | cons d ds ih =>
    obtain ⟨hd, hds⟩ := not_or.1 (List.mem_cons.not.1 hc)
    rcases List.suffix_cons_iff.1 h with he | h
    · exact absurd (List.cons.inj he).1 hd
    · exact ih h hds

/-- Every `&` of an escaped text begins an entity. -/
theorem beginsEntity_of_suffix_escapeChars {rest cs : List Char} (h : '&' :: rest <:+ escapeChars cs) :
    BeginsEntity rest := by
  induction cs with
  | nil => cases List.suffix_nil.1 h
  | cons c cs ih =>
    rw [escapeChars] at h
    rcases escapeChar_cases c cs with ⟨he, hent⟩ | ⟨body, hbody, he⟩
    · rw [he, List.singleton_append] at h
      rcases List.suffix_cons_iff.1 h with h | h
      · obtain ⟨rfl, rfl⟩ := List.cons.inj h
        exact (hent (by decide)).2.escapeChars
      · exact ih h
    · rw [he, List.cons_append] at h
      rcases List.suffix_cons_iff.1 h with h | h
      · obtain ⟨-, rfl⟩ := List.cons.inj h
        exact ⟨body, Markup.escapeChars cs, hbody, by simp⟩
      · exact ih (suffix_of_suffix_append h fun hm => hbody.plain _ hm (by decide))

theorem escapeChars_cons_ne_nil (c : Char) (cs : List Char) : escapeChars (c :: cs) ≠ [] := by
  intro h
  have he := (List.append_eq_nil_iff.1 h).1
  rcases escapeChar_cases c cs with ⟨he', -⟩ | ⟨body, -, he'⟩ <;> rw [he'] at he <;> cases he

theorem not_isBlank_head?_escapeChars {cs : List Char} (h : ∀ c ∈ cs.head?, isBlank c = false) :
    ∀ c ∈ (escapeChars cs).head?, isBlank c = false := by
  cases cs with
  | nil => exact h
  | cons c cs =>
    intro d hd
    rcases escapeChar_cases c cs with ⟨he, -⟩ | ⟨body, -, he⟩
    · obtain rfl : c = d := by simpa [escapeChars, he] using hd
      exact h c rfl
    · obtain rfl : '&' = d := by simpa [escapeChars, he] using hd
      decide

theorem not_isBlank_getLast?_escapeChars {cs : List Char} (h : ∀ c ∈ cs.getLast?, isBlank c = false) :
    ∀ c ∈ (escapeChars cs).getLast?, isBlank c = false := by
  induction cs with
  | nil => exact h
  | cons c cs ih =>
    -- Only what is written for the last character counts.
    cases cs with
    | nil =>
      intro d hd
      rcases escapeChar_cases c [] with ⟨he, -⟩ | ⟨body, -, he⟩
      · obtain rfl : c = d := by simpa [escapeChars, he] using hd
        exact h c rfl
      · rw [escapeChars, escapeChars, List.append_nil, he, ← List.cons_append, List.getLast?_concat] at hd
        cases hd
        decide
    | cons c' cs =>
      rw [List.getLast?_cons_cons] at h
      rw [escapeChars, List.getLast?_append_of_ne_nil _ (escapeChars_cons_ne_nil c' cs)]
      exact ih h

theorem trimmed_escapeChars {cs : List Char} (h : Trimmed cs) : Trimmed (escapeChars cs) :=
  ⟨not_isBlank_head?_escapeChars h.first, not_isBlank_getLast?_escapeChars h.last⟩

/-! ## Stripping -/

theorem stripChars_sublist (cs : List Char) : (stripChars cs).Sublist cs := by
  fun_induction stripChars cs with
  | case1 cs h => exact List.Sublist.refl cs
  | case2 cs _ ih => exact ih.trans (stripOnce_sublist cs)

/-- A text without `<` stays as it is. -/
theorem stripChars_of_not_mem {cs : List Char} (h : '<' ∉ cs) : stripChars cs = cs := by
  have honce : stripOnce cs = cs := by
    induction cs with
    | nil => rw [stripOnce]
    | cons c cs ih =>
      obtain ⟨hc, hcs⟩ := not_or.1 (mt List.mem_cons.2 h)
      rw [stripOnce, if_pos (by simp [Ne.symm hc]), ih hcs]
  rw [stripChars, if_pos honce]

/-- A `<` that opens markup is deleted. -/
theorem length_stripOnce_lt_of_opens {cs : List Char} (h : cs.head?.any opensMarkup = true) :
    (stripOnce ('<' :: cs)).length < cs.length + 1 := by
  unfold stripOnce
  rw [if_neg (by simp [h])]
  split
  · have h1 := (stripOnce_sublist (afterComment (cs.drop 3))).length_le
    have h2 := (afterComment_sublist (cs.drop 3)).length_le
    have h3 := (List.drop_sublist 3 cs).length_le
    omega
  · have h1 := (stripOnce_sublist (afterTag none cs)).length_le
    have h2 := (afterTag_sublist none cs).length_le
    omega

/-- Where stripping changes nothing, no `<` opens markup. -/
theorem opensMarkup_of_stripOnce_eq {cs : List Char} (h : stripOnce cs = cs) {c : Char}
    (hc : ['<', c] <:+: cs) : opensMarkup c = false := by
  induction cs with
  | nil => cases List.infix_nil.1 hc
  | cons d ds ih =>
    by_cases hopen : d = '<' ∧ ds.head?.any opensMarkup = true
    · obtain ⟨rfl, hopen⟩ := hopen
      have hlen := length_stripOnce_lt_of_opens hopen
      rw [h, List.length_cons] at hlen
      omega
    · have hkeep : (d != '<' || !ds.head?.any opensMarkup) = true := by
        by_cases hd : d = '<' <;> simp_all
      unfold stripOnce at h
      rw [if_pos hkeep] at h
      rcases List.infix_cons_iff.1 hc with hp | hi
      · obtain ⟨rfl, tail, ht⟩ := List.cons_prefix_cons.1 hp
        subst ht
        simpa using hkeep
      · exact ih (List.cons.inj h).2 hi

end Markup

/-! ## Cleaning -/

namespace Policy

/-- What is delivered of a text: nothing if it is blank when it has been cleaned, and the empty text if it is
the mark of a leaf that was made not null. -/
def deliverText? (policy : Policy) (s : String) : Option String :=
  let cleaned := policy.cleanText s
  if isBlankText cleaned then none else some (if cleaned == notNullMark then "" else cleaned)

/-- A text without its outer blanks and, if the policy says so, without tags. -/
def plainText (policy : Policy) (s : String) : String :=
  if policy.strip then Text.trim (Markup.strip (Text.trim s)) else Text.trim s

/-- A text that a page may show under a policy. -/
structure Safe (policy : Policy) (s : String) : Prop where
  trimmed : Text.Trimmed s.toList
  /-- Only the empty text is blank. -/
  empty_or_says : s = "" ∨ isBlankText s = false
  no_mark : s ≠ emptyMark ∧ s ≠ notNullMark ∧ s ≠ emptyPlaceholder
  escaped : policy.html = true → (∀ c ∈ s.toList, c ∉ ['<', '>', '\x22', '\x27']) ∧
    ∀ rest, '&' :: rest <:+ s.toList → Markup.BeginsEntity rest
  stripped : policy.strip = true → ∀ c, ['<', c] <:+: s.toList →
    ¬ (Text.isAsciiLetter c = true ∨ c = '/' ∨ c = '!' ∨ c = '?')

variable {policy : Policy}

theorem deliverText?_eq_some {s t : String} :
    policy.deliverText? s = some t ↔ isBlankText (policy.cleanText s) = false ∧
      t = if policy.cleanText s = notNullMark then "" else policy.cleanText s := by
  unfold deliverText?
  cases hb : isBlankText (policy.cleanText s) <;> simp [hb, @eq_comm _ t]

theorem deliverText?_eq_none {s : String} :
    policy.deliverText? s = none ↔ isBlankText (policy.cleanText s) = true := by
  simp [deliverText?]

/-- The empty text is delivered of what is cleaned to the mark, and of nothing else. -/
theorem deliverText?_eq_empty {s : String} :
    policy.deliverText? s = some "" ↔ policy.cleanText s = notNullMark := by
  rw [deliverText?_eq_some]
  constructor
  · rintro ⟨hb, he⟩
    split at he
    · assumption
    · rw [← he] at hb
      cases hb
  · intro h
    rw [h]
    decide

/-- A text that is not the mark has been trimmed, then stripped and trimmed again, then escaped. -/
theorem toList_cleanText {s : String} (h : s ≠ notNullMark) (policy : Policy) :
    ∃ cs, Text.Trimmed cs ∧ cs ⊆ s.toList ∧
      (policy.strip = true → ∀ c, ['<', c] <:+: cs → Markup.opensMarkup c = false) ∧
      (policy.cleanText s).toList = if policy.html then Markup.escapeChars cs else cs := by
  let cs := Text.trimChars s.toList
  have hcs : cs ⊆ s.toList := (Text.trimChars_isInfix _).subset
  refine ⟨if policy.strip then Text.trimChars (Markup.stripChars cs) else cs, ?_, ?_, ?_, ?_⟩
  · split
    · exact Text.trimmed_trimChars _
    · exact Text.trimmed_trimChars _
  · split
    · exact fun c hc => hcs ((Markup.stripChars_sublist cs).subset ((Text.trimChars_isInfix _).subset hc))
    · exact hcs
  · intro hs c hc
    rw [if_pos hs] at hc
    exact Markup.opensMarkup_of_stripOnce_eq (Markup.stripOnce_stripChars cs)
      (hc.trans (Text.trimChars_isInfix _))
  · have hn : (s == notNullMark) = false := by simpa using h
    cases hs : policy.strip <;> cases hh : policy.html <;>
      simp [cleanText, hn, hs, hh, Markup.strip, Markup.escape, cs]

/-- Cleaning makes no underscore, so what it turns into the mark has one. -/
theorem underscore_mem_of_cleanText {s : String} (h : policy.cleanText s = notNullMark) : '_' ∈ s.toList := by
  by_cases hs : s = notNullMark
  · rw [hs]
    decide
  · obtain ⟨cs, -, hsub, -, hcs⟩ := toList_cleanText hs policy
    have hm : '_' ∈ (policy.cleanText s).toList := by
      rw [h]
      decide
    rw [hcs] at hm
    split at hm
    · exact hsub (Markup.underscore_mem_of_escapeChars hm)
    · exact hsub hm

theorem safe_empty : policy.Safe "" where
  trimmed := ⟨by simp, by simp⟩
  empty_or_says := .inl rfl
  no_mark := by decide
  escaped _ := ⟨by simp, by simp⟩
  stripped _ := by simp

/-- Whatever was submitted, what is delivered is safe. -/
theorem safe_of_deliverText? {s t : String} (h : policy.deliverText? s = some t) : policy.Safe t := by
  obtain ⟨hb, rfl⟩ := deliverText?_eq_some.1 h
  split
  · exact safe_empty
  · rename_i hn
    have hs : s ≠ notNullMark := by
      rintro rfl
      exact hn (by simp [cleanText])
    obtain ⟨cs, htrim, -, hstrip, hcs⟩ := toList_cleanText hs policy
    generalize policy.cleanText s = t at *
    refine ⟨?_, .inr hb, ?_, ?_, ?_⟩
    · rw [hcs]
      split
      · exact Markup.trimmed_escapeChars htrim
      · exact htrim
    · refine ⟨?_, hn, ?_⟩ <;> rintro rfl <;> revert hb <;> decide
    · intro hh
      rw [hcs, if_pos hh]
      refine ⟨fun c hc hm => ?_, fun rest => Markup.beginsEntity_of_suffix_escapeChars⟩
      have hamp : c ≠ '&' := by
        rintro rfl
        revert hm
        decide
      exact Markup.not_mem_escapeChars (List.mem_cons_of_mem _ hm) hamp cs hc
    · intro hs c hc hopen
      rw [hcs] at hc
      split at hc
      · exact Markup.not_mem_escapeChars (by decide) (by decide) cs (hc.subset List.mem_cons_self)
      · have := hstrip hs c hc
        simp only [Markup.opensMarkup, Bool.or_eq_false_iff, beq_eq_false_iff_ne] at this
        simp [this] at hopen

end Policy

end FieldRules
