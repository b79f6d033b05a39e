import FieldRules.Proofs.Denial
import FieldRules.Proofs.Membership
import FieldRules.Proofs.Splitting
/-!
# Texts that a rule compares with

`equal` and `nequal` compare what was submitted with one text, which their rule gives them as values that commas join.
Splitting at commas takes outer blanks and empty texts away, so joining makes the text that was written again just if
it has none of them beside its commas (`join_splitValues_eq_iff`). Then the rule accepts, or refuses, this text and no
other; else it judges another text in its place (`literal_judged_iff`).
-/

namespace FieldRules

open FieldRules.Text

/-! ## Splitting at commas and joining -/

/-- There are neither blanks nor further commas beside the commas of a text. -/
def Tight (x : String) : Prop := ∀ p ∈ pieces ',' x, p ≠ "" ∧ trim p = p

instance (x : String) : Decidable (Tight x) := inferInstanceAs (Decidable (∀ p ∈ pieces ',' x, p ≠ "" ∧ trim p = p))

theorem Text.not_mem_of_mem_pieces {sep : Char} {s w : String} (h : w ∈ pieces sep s) : sep ∉ w.toList := by
  obtain ⟨v, hv, rfl⟩ := List.mem_map.1 h
  rw [piecesBy_eq_splitOnP] at hv
  rw [String.toList_ofList]
  intro hsep
  simpa using not_of_mem_splitOnP hv sep hsep

section
variable {x : String} (hunit : valueSeparator ∉ x.toList)
include hunit

theorem splitValues_of_not_mem : splitValues x = ((pieces ',' x).map trim).filter (!·.isEmpty) := by
  simp [splitValues, hunit]

theorem not_mem_of_mem_splitValues {v : String} (h : v ∈ splitValues x) : ',' ∉ v.toList := by
  rw [splitValues_of_not_mem hunit] at h
  obtain ⟨p, hp, rfl⟩ := List.mem_map.1 (List.mem_filter.1 h).1
  rw [toList_trim]
  exact fun hcomma => not_mem_of_mem_pieces hp ((trimChars_isInfix _).subset hcomma)

theorem splitValues_of_tight (h : Tight x) : splitValues x = pieces ',' x := by
  have htrim : (pieces ',' x).map trim = pieces ',' x :=
    (List.map_congr_left fun p hp => (h p hp).2).trans (List.map_id _)
  rw [splitValues_of_not_mem hunit, htrim, List.filter_eq_self]
  exact fun p hp => by simpa using (h p hp).1

/-- The values of a text join to this text just if splitting took nothing away. -/
theorem join_splitValues_eq_iff (hne : x ≠ "") : join "," (splitValues x) = x ↔ Tight x := by
  have hcomma : String.singleton ',' = "," := by decide
  constructor
  · intro h
    have hvalues : splitValues x ≠ [] := by
      intro hnil
      rw [hnil, join_nil] at h
      exact hne h.symm
    -- No value holds a comma, so the values are the pieces of the text that they join to.
    have hpieces : pieces ',' x = splitValues x := by
      conv_lhs => rw [← h, ← hcomma]
      exact pieces_join (fun v hv => not_mem_of_mem_splitValues hunit hv) hvalues
    intro p hp
    rw [hpieces, splitValues_of_not_mem hunit] at hp
    obtain ⟨hmap, hp⟩ := List.mem_filter.1 hp
    obtain ⟨w, -, rfl⟩ := List.mem_map.1 hmap
    exact ⟨by simpa using hp, trim_trim w⟩
  · intro h
    rw [splitValues_of_tight hunit h, ← hcomma]
    exact join_pieces ',' x

/-- Such a text is not lost altogether. -/
theorem splitValues_ne_nil_of_tight (h : Tight x) : splitValues x ≠ [] := by
  rw [splitValues_of_tight hunit h, pieces, Ne, List.map_eq_nil_iff]
  exact piecesBy_ne_nil _ _

end

/-! ## Comparing with one text -/

/-- A test that compares with one text passes over what was not submitted, and needs values. -/
theorem accepts_literal_iff {test : Test} (ht : test = .equal ∨ test = .nequal) (scope : Scope) (values : List String)
    (s : String) : (Evaluation.mk scope { test, values } (.text s)).Accepts ↔
      isUnset s = true ∨ values ≠ [] ∧ (s = join "," values ↔ test = .equal) := by
  have hunset : (Subject.text s).isUnset = isUnset s := rfl
  have hjudges : test.judgesEmpty = false := by rcases ht with rfl | rfl <;> rfl
  have hjudge : (∃ outcome, (Check.judge scope { test, values } (.text s)).outcome.value = .ok outcome) ↔
      values ≠ [] ∧ (s = join "," values ↔ test = .equal) := by
    rcases ht with rfl | rfl
    · have hequal : (Check.judge scope { test := .equal, values } (.text s)).outcome.value =
        Check.equal { test := .equal, values } (.text s) := rfl
      rw [hequal, Check.equal, Token.joinedValue]
      cases values <;> simp [bind, Except.bind, Check.accept_eq_ok_iff, Subject.shown?]
    · have hnequal : (Check.judge scope { test := .nequal, values } (.text s)).outcome.value =
        Check.nequal { test := .nequal, values } (.text s) := rfl
      rw [hnequal, Check.nequal, Token.joinedValue]
      cases values <;> simp [bind, Except.bind, Check.accept_eq_ok_iff, Subject.shown?]
  rw [← hjudge, Evaluation.Accepts, Evaluation.run, Validation.value_evaluate hjudges, hunset]
  cases isUnset s <;> simp

theorem accepts_equal_iff (scope : Scope) (values : List String) (s : String) :
    (Evaluation.mk scope { test := .equal, values } (.text s)).Accepts ↔
      isUnset s = true ∨ values ≠ [] ∧ s = join "," values := by
  rw [accepts_literal_iff (.inl rfl)]
  simp

theorem accepts_nequal_iff (scope : Scope) (values : List String) (s : String) :
    (Evaluation.mk scope { test := .nequal, values } (.text s)).Accepts ↔
      isUnset s = true ∨ values ≠ [] ∧ s ≠ join "," values := by
  rw [accepts_literal_iff (.inr rfl)]
  simp

/-- The tests judge a text itself, and no other in its place, just if it is `Tight`. -/
theorem judges_written_iff {x : String} (hunit : valueSeparator ∉ x.toList) (hset : isUnset x = false) (scope : Scope) :
    (∀ s, isUnset s = false → ((Evaluation.mk scope { test := .equal, values := splitValues x } (.text s)).Accepts ↔
        s = x)) ∧
      (∀ s, (Evaluation.mk scope { test := .nequal, values := splitValues x } (.text s)).Accepts ↔ s ≠ x) ↔
      Tight x := by
  have hne : x ≠ "" := by
    rintro rfl
    cases hset
  simp only [accepts_equal_iff, accepts_nequal_iff]
  constructor
  · rintro ⟨haccepts, -⟩
    have hwritten := (haccepts x hset).2 rfl
    rw [hset] at hwritten
    obtain hunset | ⟨-, hjoin⟩ := hwritten
    · cases hunset
    · exact (join_splitValues_eq_iff hunit hne).1 hjoin.symm
  · intro htight
    have hvalues := splitValues_ne_nil_of_tight hunit htight
    rw [(join_splitValues_eq_iff hunit hne).2 htight]
    refine ⟨fun s hs => by simp [hs, hvalues], fun s => ?_⟩
    constructor
    · rintro (hunset | ⟨-, hother⟩)
      · -- What counts as not submitted is not what is written.
        rintro rfl
        exact absurd (hset.symm.trans hunset) Bool.false_ne_true
      · exact hother
    · exact fun hother => .inr ⟨hvalues, hother⟩

/-- A rule that compares with one text is read as its test with the values of this text. -/
theorem tokenize_literal {name : String} {test : Test}
    (hname : name = "equal" ∧ test = .equal ∨ name = "nequal" ∧ test = .nequal) {x : String} (hx : CellArgument x)
    (hignore : mentionsIgnore x = false) : tokenize (namedCell name x) = [{ test, values := splitValues x }] := by
  have hn : PlainName name := by rcases hname with ⟨rfl, -⟩ | ⟨rfl, -⟩ <;> constructor <;> decide
  have htest : Test.ofName name = test := by rcases hname with ⟨rfl, rfl⟩ | ⟨rfl, rfl⟩ <;> decide
  have hvalue : test.hasDirectValue = true := by rcases hname with ⟨-, rfl⟩ | ⟨-, rfl⟩ <;> rfl
  have hknows : ∀ word, test.knows word = false := by rcases hname with ⟨-, rfl⟩ | ⟨-, rfl⟩ <;> exact fun _ => rfl
  rw [tokenize_argument hn hx htest hvalue fun head _ _ => Validation.namesModifiers_of_not_knows hknows head, hignore]
  rfl

/-- Rules that compare with one text judge the text that its values join to. So `equal` accepts what is written there
and nothing else that was submitted, and `nequal` refuses it and nothing else, just if it is `Tight`. -/
theorem literal_judged_iff {x : String} (hx : CellArgument x) (hunit : valueSeparator ∉ x.toList)
    (hignore : mentionsIgnore x = false) (hmark : x ≠ emptyMark) (scope : Scope) :
    let equal : Token := { test := .equal, values := splitValues x }
    let nequal : Token := { test := .nequal, values := splitValues x }
    tokenize (namedCell "equal" x) = [equal] ∧ tokenize (namedCell "nequal" x) = [nequal] ∧
      (∀ s, (Evaluation.mk scope equal (.text s)).Accepts ↔
        isUnset s = true ∨ splitValues x ≠ [] ∧ s = join "," (splitValues x)) ∧
      (∀ s, (Evaluation.mk scope nequal (.text s)).Accepts ↔
        isUnset s = true ∨ splitValues x ≠ [] ∧ s ≠ join "," (splitValues x)) ∧
      ((∀ s, isUnset s = false → ((Evaluation.mk scope equal (.text s)).Accepts ↔ s = x)) ∧
        (∀ s, (Evaluation.mk scope nequal (.text s)).Accepts ↔ s ≠ x) ↔ Tight x) := by
  intro equal nequal
  have hset : isUnset x = false := by simp [isUnset, hx.ne_empty, hmark]
  have hequal : tokenize (namedCell "equal" x) = [equal] := tokenize_literal (.inl ⟨rfl, rfl⟩) hx hignore
  have hnequal : tokenize (namedCell "nequal" x) = [nequal] := tokenize_literal (.inr ⟨rfl, rfl⟩) hx hignore
  refine ⟨hequal, hnequal, ?_, ?_, judges_written_iff hunit hset scope⟩
  · exact accepts_equal_iff scope (splitValues x)
  · exact accepts_nequal_iff scope (splitValues x)

theorem literal_judged_iff_rgb :
    CellArgument "rgb:1,2,3" ∧ valueSeparator ∉ "rgb:1,2,3".toList ∧ mentionsIgnore "rgb:1,2,3" = false ∧
      "rgb:1,2,3" ≠ emptyMark ∧
      (∃ equal, tokenize "equal:rgb:1,2,3" = [equal] ∧ ∀ scope s, isUnset s = false →
        ((Evaluation.mk scope equal (.text s)).Accepts ↔ s = "rgb:1,2,3")) ∧
      ∃ nequal, tokenize "nequal:rgb:1,2,3" = [nequal] ∧ ∀ scope s,
        ((Evaluation.mk scope nequal (.text s)).Accepts ↔ s ≠ "rgb:1,2,3") := by
  have hx : CellArgument "rgb:1,2,3" := by constructor <;> decide
  have hunit : valueSeparator ∉ "rgb:1,2,3".toList := by decide
  have hignore : mentionsIgnore "rgb:1,2,3" = false := by decide +kernel
  have hmark : "rgb:1,2,3" ≠ emptyMark := by decide
  have htight : Tight "rgb:1,2,3" := by decide
  have hjudged := literal_judged_iff hx hunit hignore hmark
  obtain ⟨hequal, hnequal, -⟩ := hjudged { collaborators := .mute }
  refine ⟨hx, hunit, hignore, hmark, ⟨_, hequal, fun scope => ?_⟩, _, hnequal, fun scope => ?_⟩
  · exact ((hjudged scope).2.2.2.2.2 htight).1
  · exact ((hjudged scope).2.2.2.2.2 htight).2

/-- A blank behind a comma is lost: the rule refuses what is written there, and accepts what is not. -/
theorem literal_spaced :
    let scope : Scope := { collaborators := .mute }
    let equal : Token := { test := .equal, values := ["a", "b"] }
    let nequal : Token := { test := .nequal, values := ["a", "b"] }
    CellArgument "a, b" ∧ valueSeparator ∉ "a, b".toList ∧ mentionsIgnore "a, b" = false ∧ "a, b" ≠ emptyMark ∧
      tokenize "equal:a, b" = [equal] ∧ tokenize "nequal:a, b" = [nequal] ∧
      ¬ (Evaluation.mk scope equal (.text "a, b")).Accepts ∧ (Evaluation.mk scope equal (.text "a,b")).Accepts ∧
      (Evaluation.mk scope nequal (.text "a, b")).Accepts ∧
      (Validation.alone.validateValue "a, b" "equal:a, b").value =
        .ok (.invalid { fault := .different "a,b", field := some "value" }) := by
  intro scope equal nequal
  have hx : CellArgument "a, b" := by constructor <;> decide
  have hignore : mentionsIgnore "a, b" = false := by decide +kernel
  have hvalues : splitValues "a, b" = ["a", "b"] := by decide
  have hequal := tokenize_literal (.inl ⟨rfl, rfl⟩) hx hignore
  have hnequal := tokenize_literal (.inr ⟨rfl, rfl⟩) hx hignore
  rw [hvalues] at hequal hnequal
  refine ⟨hx, by decide, hignore, by decide, hequal, hnequal, ?_, ?_, ?_, by decide +kernel⟩
  · rw [accepts_literal_iff (.inl rfl)]
    decide
  · rw [accepts_literal_iff (.inl rfl)]
    decide
  · rw [accepts_literal_iff (.inr rfl)]
    decide

end FieldRules
