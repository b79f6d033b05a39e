import FieldRules.Proofs.OneText
import FieldRules.Proofs.ValueLists
/-!
# Objects of flags

A test that takes modifiers may be given them as an object from their names to yes or no. Such a rule is read as one
token (`tokenize_flagRule`): it has every modifier of the object, and each no leaves a value behind. So a modifier that is
turned off is not the same as one that is not named; the two rules are the same just if no modifier is turned off.
-/

namespace FieldRules

open FieldRules.Text

/-! ## Names of modifiers -/

namespace Test

variable {test : Test} {word : String}

theorem exists_spelling (h : test.knows word = true) : ∃ entry ∈ test.modifiers, asciiLower (trim word) ∈ entry.2 := by
  cases hfind : test.modifiers.find? fun entry => entry.2.contains (asciiLower (trim word)) with
  | none =>
    unfold knows modifier at h
    simp only at h
    rw [hfind] at h
    cases h
  | some entry =>
    have hcontains := List.find?_some hfind
    exact ⟨entry, List.mem_of_find?_eq_some hfind, List.contains_iff_mem.1 hcontains⟩

theorem modifier_eq_unknown (h : test.knows word = false) : test.modifier word = .unknown (asciiLower (trim word)) := by
  have hknown : ∀ entry ∈ test.modifiers, ∀ raw, entry.1 ≠ .unknown raw := by
    cases test <;> simp [modifiers]
  cases hfind : test.modifiers.find? fun entry => entry.2.contains (asciiLower (trim word)) with
  | none =>
    unfold modifier
    simp only
    rw [hfind]
  | some entry =>
    have hmodifier : test.modifier word = entry.1 := by
      unfold modifier
      simp only
      rw [hfind]
    unfold knows at h
    rw [hmodifier] at h
    split at h
    · exact absurd ‹_› (hknown entry (List.mem_of_find?_eq_some hfind) _)
    · cases h

end Test

/-- A word of letters and digits, other than `ignore`. -/
structure ModifierWord (word : String) : Prop where
  ne_empty : word ≠ ""
  signs : ∀ c ∈ word.toList, isAsciiLetter c = true ∨ isAsciiDigit c = true
  no_ignore : asciiLower word ∉ ["ignore", "ig"]

theorem isAsciiDigit_of_toLower {c : Char} (h : isAsciiDigit c.toLower = true) : isAsciiDigit c = true := by
  unfold Char.toLower at h
  split at h
  · -- A capital has a small letter, which is no digit.
    rename_i hupper
    have hrange : 65 ≤ c.val.toNat ∧ c.val.toNat ≤ 90 := hupper
    have hle := (isAsciiDigit_iff.1 h).2
    simp only [Char.toNat, UInt32.toNat_add] at hle
    change (c.val.toNat + 32) % _ ≤ 57 at hle
    omega
  · exact h

/-- The names of modifiers are such words. -/
theorem modifierWord_of_knows {test : Test} {word : String} (h : test.knows word = true) (htrim : trim word = word) :
    ModifierWord word := by
  have hspellings : ∀ entry ∈ test.modifiers, ∀ name ∈ entry.2, name ≠ "" ∧
      (name.toList.all fun c => isAsciiLetter c || isAsciiDigit c) = true ∧ name ∉ ["ignore", "ig"] := by
    cases test with
    | unknown name => simp [Test.modifiers]
    | _ => decide
  obtain ⟨entry, hentry, hname⟩ := Test.exists_spelling h
  rw [htrim] at hname
  obtain ⟨hne, hsigns, hignore⟩ := hspellings entry hentry _ hname
  refine ⟨?_, ?_, hignore⟩
  · rintro rfl
    exact hne rfl
  · intro c hc
    rw [toList_asciiLower, List.all_map] at hsigns
    have hlower : isAsciiLetter c.toLower = true ∨ isAsciiDigit c.toLower = true := by
      simpa using List.all_eq_true.1 hsigns c hc
    exact hlower.imp isAsciiLetter_of_toLower isAsciiDigit_of_toLower

namespace ModifierWord

variable {word : String} (h : ModifierWord word)
include h

theorem not_mem {c : Char} (hletter : isAsciiLetter c = false) (hdigit : isAsciiDigit c = false) : c ∉ word.toList := by
  intro hc
  rcases h.signs c hc with hs | hs
  · rw [hs] at hletter
    cases hletter
  · rw [hs] at hdigit
    cases hdigit

theorem not_isBlank {c : Char} (hc : c ∈ word.toList) : isBlank c = false := by
  rcases h.signs c hc with hs | hs
  · exact not_isBlank_of_isAsciiLetter hs
  · exact not_isBlank_of_isAsciiDigit hs

theorem trimmed : Trimmed word.toList :=
  ⟨fun _ hc => h.not_isBlank (List.mem_of_mem_head? hc), fun _ hc => h.not_isBlank (List.mem_of_mem_getLast? hc)⟩

/-- It is one word for the search of the word that turns rules off. -/
theorem no_mention : mentionsIgnore word = false := by
  have hword : ∀ c ∈ word.toList, (!Unicode.isWord c) = false := by
    intro c hc
    rcases h.signs c hc with hs | hs
    · simp [isWord_of_isAsciiLetter hs]
    · simp [isWord_of_isAsciiDigit hs]
  have hignore := h.no_ignore
  rw [asciiLower] at hignore
  rw [mentionsIgnore, piecesBy_of_not hword, List.any_cons, List.any_nil, Bool.or_false, Bool.eq_false_iff]
  exact fun hcontains => hignore (List.contains_iff_mem.1 hcontains)

end ModifierWord

section
variable {words : List String} (hwords : ∀ word ∈ words, ModifierWord word)
include hwords

theorem not_mem_joinWords {c : Char} (hcomma : c ≠ ',') (hletter : isAsciiLetter c = false)
    (hdigit : isAsciiDigit c = false) : c ∉ (join "," words).toList := by
  rw [toList_join]
  refine not_mem_intercalate hcomma ?_
  rw [List.forall_mem_map]
  exact fun word hword => (hwords word hword).not_mem hletter hdigit

theorem trimmed_joinWords : Trimmed (join "," words).toList := by
  rw [toList_join]
  refine trimmed_intercalate ?_
  rw [List.forall_mem_map]
  intro word hword
  exact ⟨by simpa using (hwords word hword).ne_empty, (hwords word hword).trimmed⟩

theorem cellArgument_joinWords (hne : words ≠ []) : CellArgument (join "," words) := by
  constructor
  · obtain ⟨word, rest, rfl⟩ := List.exists_cons_of_ne_nil hne
    have hword := (hwords word (.head _)).ne_empty
    cases rest with
    | nil => simpa using hword
    | cons next rest =>
      rw [Ne, ← String.toList_inj, toList_join]
      simp [List.intercalate_cons_cons]
  · exact trim_eq_self_iff.2 (trimmed_joinWords hwords)
  · exact not_mem_joinWords hwords (by decide) rfl rfl
  · exact not_mem_joinWords hwords (by decide) rfl rfl

theorem no_mention_joinWords : mentionsIgnore (join "," words) = false := by
  have hcomma : "," = String.singleton ',' := by decide
  rw [hcomma, mentionsIgnore_join (not_isWord_of_wordGaps rfl), List.any_eq_false]
  intro word hword
  simp [(hwords word hword).no_mention]

/-- Words between commas are read as the modifiers that they name. -/
theorem splitModifiers_joinWords (hne : words ≠ []) (test : Test) :
    splitModifiers test (join "," words) = words.map test.modifier := by
  have hcomma : "," = String.singleton ',' := by decide
  have hpieces : pieces ',' (join "," words) = words := by
    rw [hcomma]
    exact pieces_join (fun word hword => (hwords word hword).not_mem rfl rfl) hne
  have htrim : words.map trim = words := by
    conv_rhs => rw [← List.map_id words]
    exact List.map_congr_left fun word hword => trim_eq_self_iff.2 (hwords word hword).trimmed
  have hkeep : words.filter (!·.isEmpty) = words :=
    List.filter_eq_self.2 fun word hword => by simp [(hwords word hword).ne_empty]
  rw [splitModifiers, hpieces, htrim, hkeep]

end

/-! ## What an object of flags is written as -/

/-- The rule that gives a test an object of flags. -/
def flagRule (key : String) (flags : List (String × Bool)) : Json :=
  .object [(key, .object (flags.map fun e => (e.1, .bool e.2)))]

/-- The modifiers that the cell of such a rule names: all of the object, on or off, but for those whose name is a
number. -/
def flagWords (flags : List (String × Bool)) : List String := (flags.map Prod.fst).filter (!isIndex ·)

/-- The values that the cell gives: one for each flag that is off, and one for each name that is a number. -/
def flagTexts (flags : List (String × Bool)) : List String :=
  flags.flatMap fun e =>
    if isIndex e.1 then [if e.2 then "true" else "false"] else if e.2 then [] else ["false"]

/-- What is read. Without a modifier the values stand where the modifiers are looked for. -/
def flagToken (test : Test) (flags : List (String × Bool)) : Token :=
  if flagWords flags ≠ [] then { test, modifiers := (flagWords flags).map test.modifier, values := flagTexts flags }
  else if flagTexts flags ≠ [] then { test, modifiers := [.unknown (joinValues (flagTexts flags))] }
  else { test }

theorem nestedCell_flags (key : String) (flags : List (String × Bool)) :
    nestedCell key (flags.map fun e => (e.1, .bool e.2)) =
      key ++ (if (flagWords flags).isEmpty then "" else ":" ++ join "," (flagWords flags)) ++
        (if (joinValues (flagTexts flags)).isEmpty then "" else ":" ++ joinValues (flagTexts flags)) := by
  have hwords : ((flags.map fun e => (e.1, Json.bool e.2)).map fun e => argument e.1 e.2).flatMap Prod.fst =
      flagWords flags := by
    induction flags with
    | nil => rfl
    | cons e flags ih =>
      rw [List.map_cons, List.map_cons, List.flatMap_cons, ih]
      cases hindex : isIndex e.1 <;> simp [argument, flagWords, hindex]
  have htexts : ((flags.map fun e => (e.1, Json.bool e.2)).map fun e => argument e.1 e.2).flatMap Prod.snd =
      flagTexts flags := by
    rw [flagTexts, List.map_map, List.flatMap_map]
    refine List.flatMap_congr fun e _ => ?_
    cases hindex : isIndex e.1 <;> cases hon : e.2 <;> simp [argument, hindex, hon, isFlag, argumentText?]
  unfold nestedCell
  simp only [hwords, htexts]

section
variable {flags : List (String × Bool)}

theorem mem_flagTexts {text : String} (h : text ∈ flagTexts flags) : text = "true" ∨ text = "false" := by
  obtain ⟨e, -, htext⟩ := List.mem_flatMap.1 h
  split at htext
  · rw [List.mem_singleton] at htext
    rw [htext]
    cases e.2
    · exact .inr rfl
    · exact .inl rfl
  · split at htext
    · cases htext
    · exact .inr (List.mem_singleton.1 htext)

theorem false_mem_flagTexts : "false" ∈ flagTexts flags ↔ ∃ e ∈ flags, e.2 = false := by
  rw [flagTexts, List.mem_flatMap]
  refine exists_congr fun e => and_congr_right fun _ => ?_
  cases e.2 <;> cases isIndex e.1 <;> simp

theorem listEntry_flagTexts : ∀ text ∈ flagTexts flags, ListEntry text := by
  intro text htext
  rcases mem_flagTexts htext with rfl | rfl <;> constructor <;> decide

/-- Written out they hold small letters and the sign that joins them. -/
theorem signs_joinTexts {c : Char} (h : c ∈ (joinValues (flagTexts flags)).toList) :
    c.toLower = c ∧ c ∉ ['i', ',', ':'] := by
  have hall : (valueSeparator :: ("true".toList ++ "false".toList)).all
      (fun c => c.toLower == c && !(['i', ',', ':'].contains c)) = true := by decide
  have hmem : c ∈ valueSeparator :: ("true".toList ++ "false".toList) := by
    rw [List.mem_cons, List.mem_append]
    by_contra hc
    obtain ⟨hunit, hc⟩ := not_or.1 hc
    rw [toList_joinValues] at h
    refine not_mem_intercalate hunit ?_ h
    rw [List.forall_mem_map]
    intro text htext hin
    rcases mem_flagTexts htext with rfl | rfl
    · exact hc (.inl hin)
    · exact hc (.inr hin)
  simpa using List.all_eq_true.1 hall c hmem

theorem no_mention_joinTexts : mentionsIgnore (joinValues (flagTexts flags)) = false := by
  rw [← String.ofList_toList (s := joinValues (flagTexts flags))]
  apply mentionsIgnore_of_forall
  rintro c hc hi
  obtain ⟨hlower, hplain⟩ := signs_joinTexts hc
  rw [hlower] at hi
  exact hplain (hi ▸ .head _)

/-- Such values name no modifier. -/
theorem not_knows_joinTexts (test : Test) (hne : flagTexts flags ≠ []) :
    test.knows (joinValues (flagTexts flags)) = false := by
  have hplain : ∀ text, text = "true" ∨ text = "false" → test.knows text = false := by
    rintro text (rfl | rfl) <;> cases test <;> rfl
  obtain ⟨text, rest, htexts⟩ := List.exists_cons_of_ne_nil hne
  have hmem : text ∈ flagTexts flags := by
    rw [htexts]
    exact .head _
  cases rest with
  | nil =>
    rw [htexts, joinValues, join_singleton]
    exact hplain text (mem_flagTexts hmem)
  | cons next rest =>
    apply Test.knows_of_mem (.inl rfl)
    rw [htexts, toList_joinValues_cons]
    simp

theorem splitModifiers_joinTexts (test : Test) (hne : flagTexts flags ≠ []) :
    splitModifiers test (joinValues (flagTexts flags)) = [.unknown (joinValues (flagTexts flags))] := by
  have hargument := cellArgument_joinValues hne listEntry_flagTexts
  have hlower : asciiLower (joinValues (flagTexts flags)) = joinValues (flagTexts flags) := by
    rw [← String.toList_inj, toList_asciiLower]
    conv_rhs => rw [← List.map_id (joinValues (flagTexts flags)).toList]
    exact List.map_congr_left fun c hc => (signs_joinTexts hc).1
  have hcomma : ',' ∉ (joinValues (flagTexts flags)).toList := fun hc => (signs_joinTexts hc).2 (by simp)
  have hmodifier := Test.modifier_eq_unknown (not_knows_joinTexts test hne)
  rw [hargument.trimmed, hlower] at hmodifier
  simp [splitModifiers, pieces_of_not_mem hcomma, hargument.trimmed, hargument.ne_empty, hmodifier]

/-- Different lists of such values are written differently. -/
theorem joinTexts_inj {others : List (String × Bool)} (hflags : flagTexts flags ≠ []) (hothers : flagTexts others ≠ [])
    (h : joinValues (flagTexts flags) = joinValues (flagTexts others)) : flagTexts flags = flagTexts others := by
  rw [← pieces_join (fun text htext => (listEntry_flagTexts text htext).no_unit) hflags,
    ← pieces_join (fun text htext => (listEntry_flagTexts text htext).no_unit) hothers]
  exact congrArg (pieces valueSeparator) h

end

/-! ## What it is read as -/

theorem cutOnce_of_not_mem {sep : Char} {s : String} (h : sep ∉ s.toList) : cutOnce sep s = none := by
  cases hcut : cutAt (· == sep) s.toList with
  | none => rw [cutOnce, hcut, Option.map_none]
  | some parts =>
    obtain ⟨c, hc, he, -⟩ := cutAt_eq_some hcut
    rw [beq_iff_eq] at hc
    exact absurd (by simp [he, hc]) h

theorem isIndex_of_plainName {name : String} (hn : PlainName name) : isIndex name = false := by
  rw [isIndex, Bool.and_eq_false_iff]
  cases hl : name.toList with
  | nil => exact .inl rfl
  | cons c cs =>
    have hletter := hn.isAsciiLetter c (hl ▸ .head _)
    right
    rw [List.all_cons, Bool.and_eq_false_iff]
    left
    by_contra hdigit
    rw [not_isAsciiLetter_of_isAsciiDigit (by simpa using hdigit)] at hletter
    cases hletter

section
variable {test : Test} (hdirect : test.hasDirectValue = false) {words : String} (hwords : ':' ∉ words.toList)
include hdirect hwords

/-- What stands behind the name of a test that takes no values directly are its modifiers, up to a colon. -/
theorem splitArguments_of_not_mem : splitArguments test words = (some words, none) := by
  unfold splitArguments
  rw [cutOnce_of_not_mem hwords, hdirect]
  rfl

theorem splitArguments_named (values : String) :
    splitArguments test (namedCell words values) = (some words, some values) := by
  have hcut : cutOnce ':' (namedCell words values) = some (words, values) := cutOnce_append hwords values
  unfold splitArguments
  rw [hcut, hdirect]
  rfl

end

/-- Modifiers and values with a colon between them stand in a cell as each of them does. -/
theorem cellArgument_named {words values : String} (hwords : CellArgument words) (hvalues : CellArgument values) :
    CellArgument (namedCell words values) := by
  have hlist : (namedCell words values).toList = [':'].intercalate [words.toList, values.toList] := by
    rw [toList_namedCell, List.intercalate_cons_cons, List.intercalate_singleton]
    simp
  constructor
  · rw [Ne, ← String.toList_inj, toList_namedCell]
    simp
  · rw [trim_eq_self_iff, hlist]
    apply trimmed_intercalate
    simp [hwords.ne_empty, hvalues.ne_empty, trim_eq_self_iff.1 hwords.trimmed, trim_eq_self_iff.1 hvalues.trimmed]
  · rw [hlist]
    apply not_mem_intercalate (by decide)
    simp [hwords.no_semicolon, hvalues.no_semicolon]
  · rw [hlist]
    apply not_mem_intercalate (by decide)
    simp [hwords.no_bar, hvalues.no_bar]

theorem no_mention_named {words values : String} (hwords : mentionsIgnore words = false)
    (hvalues : mentionsIgnore values = false) : mentionsIgnore (namedCell words values) = false := by
  rw [← String.ofList_toList (s := namedCell words values), toList_namedCell,
    mentionsIgnore_append_cons (not_isWord_of_wordGaps rfl), String.ofList_toList, String.ofList_toList, hwords, hvalues]
  rfl

section
variable {key : String} {test : Test} (hkey : PlainName key) (htest : Test.ofName key = test)
include hkey

theorem not_isBlank_plainName {c : Char} (hc : c ∈ key.toList) : isBlank c = false :=
  not_isBlank_of_isAsciiLetter (hkey.isAsciiLetter c hc)

theorem trim_plainName : trim key = key := by
  rw [trim_eq_self_iff]
  exact ⟨fun _ hc => not_isBlank_plainName hkey (List.mem_of_mem_head? hc),
    fun _ hc => not_isBlank_plainName hkey (List.mem_of_mem_getLast? hc)⟩

include htest

/-- A rule that is the name of a test is read as that test. -/
theorem tokenize_bare (hne : key ≠ "") : tokenize key = [{ test }] := by
  have hsep : ∀ c ∈ key.toList, PatternStash.isSeparator c = false := by
    intro c hc
    by_contra hs
    rcases PatternStash.isSeparator_cases (by simpa using hs) with rfl | rfl <;> cases hkey.isAsciiLetter _ hc
  have hhead : PatternStash.cellHead? key.toList = none := by
    refine Option.eq_none_iff_forall_ne_some.2 fun cell hcell => ?_
    obtain ⟨hhead, he⟩ := PatternStash.cellHead?_eq_some_iff.1 hcell
    obtain ⟨name, hname⟩ := hhead.exists_append
    cases hkey.isAsciiLetter ':' (by simp [he, hname])
  have hword : ∀ c ∈ key.toList, (!Unicode.isWord c) = false := by
    intro c hc
    simp [isWord_of_isAsciiLetter (hkey.isAsciiLetter c hc)]
  have hignore : mentionsIgnore key = false := by
    have hname := hkey.no_ignore
    rw [asciiLower] at hname
    rw [mentionsIgnore, piecesBy_of_not hword, List.any_cons, hname, List.any_nil, Bool.or_false]
  have hblank : (trim key).isEmpty = false := by simpa [trim_plainName hkey] using hne
  have hcut : cutOnce ':' key = none := cutOnce_of_not_mem (hkey.not_mem rfl)
  rw [tokenize_of_one_cell hhead hsep hignore hblank]
  unfold Token.ofCell
  simp only [trim_plainName hkey, hcut, htest]

section
variable {flags : List (String × Bool)}

omit htest in
theorem ruleText_flagRule {cell : String} (hcell : nestedCell key (flags.map fun e => (e.1, .bool e.2)) = cell)
    (hblank : (trim cell).isEmpty = false) : ruleText (flagRule key flags) = cell := by
  have hcells : cells (flagRule key flags) = [cell] := by
    simp [flagRule, cells, entryCells, isIndex_of_plainName hkey, testCell?, isFlag, hcell]
  rw [ruleText, hcells, List.filter_singleton, hblank]
  simp

theorem tokenize_written {rest : String} {words values : Option String}
    (hcell : nestedCell key (flags.map fun e => (e.1, .bool e.2)) = namedCell key rest) (hrest : CellArgument rest)
    (hmention : mentionsIgnore rest = false) (harguments : splitArguments test rest = (words, values)) :
    tokenize (ruleText (flagRule key flags)) =
      [{ test, modifiers := (words.map (splitModifiers test)).getD [], values := (values.map splitValues).getD [] }] := by
  rw [ruleText_flagRule hkey hcell (isEmpty_trim_named hkey hrest), tokenize_cell hkey hrest htest harguments, hmention,
    if_neg Bool.false_ne_true]

variable (hdirect : test.hasDirectValue = false) (hwords : ∀ word ∈ flagWords flags, ModifierWord word)
include hdirect hwords

/-- A rule that gives a test an object of flags is read as that test with every modifier of the object, on or off, and
with a value for each that is off. -/
theorem tokenize_flagRule (hne : key ≠ "") : tokenize (ruleText (flagRule key flags)) = [flagToken test flags] := by
  have hnested := nestedCell_flags key flags
  by_cases htexts : flagTexts flags = []
  · have hempty : (joinValues (flagTexts flags)).isEmpty = true := by simp [htexts, joinValues]
    rw [hempty, if_pos rfl, String.append_empty] at hnested
    by_cases hw : flagWords flags = []
    · -- Nothing is written behind the name.
      rw [hw, List.isEmpty_nil, if_pos rfl, String.append_empty] at hnested
      have hblank : (trim key).isEmpty = false := by simpa [trim_plainName hkey] using hne
      rw [ruleText_flagRule hkey hnested hblank, tokenize_bare hkey htest hne]
      simp [flagToken, hw, htexts]
    · rw [if_neg (by simpa using hw), ← String.append_assoc] at hnested
      have hcolon : ':' ∉ (join "," (flagWords flags)).toList := not_mem_joinWords hwords (by decide) rfl rfl
      rw [tokenize_written hkey htest hnested (cellArgument_joinWords hwords hw) (no_mention_joinWords hwords)
        (splitArguments_of_not_mem hdirect hcolon)]
      simp [flagToken, hw, htexts, splitModifiers_joinWords hwords hw]
  · have hargument := cellArgument_joinValues htexts listEntry_flagTexts
    have hcolon : ':' ∉ (joinValues (flagTexts flags)).toList := fun hc => (signs_joinTexts hc).2 (by simp)
    have hempty : (joinValues (flagTexts flags)).isEmpty = false := by simpa using hargument.ne_empty
    rw [hempty, if_neg Bool.false_ne_true] at hnested
    by_cases hw : flagWords flags = []
    · -- The values stand where a test of this kind has its modifiers.
      rw [hw, List.isEmpty_nil, if_pos rfl, String.append_empty, ← String.append_assoc] at hnested
      rw [tokenize_written hkey htest hnested hargument no_mention_joinTexts (splitArguments_of_not_mem hdirect hcolon)]
      simp [flagToken, hw, htexts, splitModifiers_joinTexts test htexts]
    · have hcell : nestedCell key (flags.map fun e => (e.1, .bool e.2)) =
          namedCell key (namedCell (join "," (flagWords flags)) (joinValues (flagTexts flags))) := by
        rw [hnested, if_neg (by simpa using hw)]
        simp only [namedCell, String.append_assoc]
      have hwordcolon : ':' ∉ (join "," (flagWords flags)).toList := not_mem_joinWords hwords (by decide) rfl rfl
      have hone : ∀ text, flagTexts flags = [text] → ',' ∉ text.toList := by
        intro text htext
        have hmem : text ∈ flagTexts flags := by
          rw [htext]
          exact .head _
        rcases mem_flagTexts hmem with rfl | rfl <;> decide
      rw [tokenize_written hkey htest hcell (cellArgument_named (cellArgument_joinWords hwords hw) hargument)
        (no_mention_named (no_mention_joinWords hwords) no_mention_joinTexts) (splitArguments_named hdirect hwordcolon _)]
      simp [flagToken, hw, splitModifiers_joinWords hwords hw, splitValues_joinValues htexts listEntry_flagTexts hone]

end

end

/-! ## Flags that are off -/

section
variable {flags : List (String × Bool)}

/-- A modifier is there whether it is on or off, if its name is no number. -/
theorem has_flagToken (test : Test) {e : String × Bool} (he : e ∈ flags) (hindex : isIndex e.1 = false) :
    (flagToken test flags).has (test.modifier e.1) = true := by
  have hword : e.1 ∈ flagWords flags := by
    rw [flagWords, List.mem_filter]
    exact ⟨List.mem_map_of_mem he, by simp [hindex]⟩
  rw [flagToken, if_pos (List.ne_nil_of_mem hword), Token.has, List.contains_iff_mem]
  exact List.mem_map_of_mem hword

/-- Flags that are off leave a mark on the token: a value, or the name of an unknown modifier. -/
theorem flagToken_filter_iff (test : Test) :
    flagToken test (flags.filter Prod.snd) = flagToken test flags ↔ ∀ e ∈ flags, e.2 = true := by
  constructor
  · intro h
    by_contra hoff
    push Not at hoff
    -- A flag that is off leaves a value that none leaves that is on.
    have hmem : "false" ∈ flagTexts flags := false_mem_flagTexts.2 (by simpa using hoff)
    have hgone : "false" ∉ flagTexts (flags.filter Prod.snd) := by
      rw [false_mem_flagTexts]
      rintro ⟨e, he, hfalse⟩
      rw [(List.mem_filter.1 he).2] at hfalse
      cases hfalse
    have htexts : flagTexts flags ≠ [] := List.ne_nil_of_mem hmem
    by_cases hwords : flagWords flags = []
    · -- All names are numbers, so the values stand in the place of the modifiers on both sides.
      have hrest : flagWords (flags.filter Prod.snd) = [] := by
        rw [List.eq_nil_iff_forall_not_mem] at hwords ⊢
        intro word hword
        refine hwords word ?_
        rw [flagWords, List.mem_filter, List.mem_map] at hword ⊢
        obtain ⟨⟨e, he, heq⟩, hindex⟩ := hword
        exact ⟨⟨e, (List.mem_filter.1 he).1, heq⟩, hindex⟩
      by_cases hothers : flagTexts (flags.filter Prod.snd) = []
      · simp [flagToken, hwords, hrest, htexts, hothers] at h
      · simp only [flagToken, hwords, hrest, htexts, hothers, ne_eq, not_true_eq_false, not_false_eq_true, if_false,
          if_true, Token.mk.injEq, List.cons.injEq, Modifier.unknown.injEq, and_true, true_and] at h
        rw [joinTexts_inj hothers htexts h] at hgone
        exact hgone hmem
    · have hvalues := congrArg Token.values h
      rw [flagToken, flagToken, if_pos hwords] at hvalues
      split at hvalues
      · have htexts' : flagTexts (flags.filter Prod.snd) = flagTexts flags := hvalues
        rw [htexts'] at hgone
        exact hgone hmem
      · split at hvalues
        · exact htexts hvalues.symm
        · exact htexts hvalues.symm
  · intro h
    rw [List.filter_eq_self.2 h]

end

/-- The tests that have modifiers and take no values directly are known by plain names. -/
theorem plainName_of_knows {test : Test} {word : String} (hdirect : test.hasDirectValue = false)
    (hknows : test.knows word = true) {key : String} (hkey : key = test.name ∨ key = asciiLower test.name) :
    PlainName key ∧ Test.ofName key = test ∧ key ≠ "" := by
  have hmodifiers : test.modifiers ≠ [] := by
    obtain ⟨entry, hentry, -⟩ := Test.exists_spelling hknows
    exact List.ne_nil_of_mem hentry
  rcases hkey with rfl | rfl <;> cases test <;> first
    | exact absurd rfl hmodifiers
    | exact absurd hdirect (by decide)
    | exact ⟨⟨by decide, by decide, by decide⟩, by decide +kernel, by decide⟩

/-- A rule that gives a test an object of flags is read with every modifier of the object, on or off, but for those whose
name is a number; and it is read as without the flags that are off just if there are none. -/
theorem flagRule_filter_iff {test : Test} (hdirect : test.hasDirectValue = false) {key : String}
    (hkey : key = test.name ∨ key = asciiLower test.name) {flags : List (String × Bool)}
    (hflags : ∀ e ∈ flags, test.knows e.1 = true ∧ trim e.1 = e.1) :
    (flags ≠ [] → tokenize (ruleText (flagRule key flags)) = [flagToken test flags]) ∧
      (∀ e ∈ flags, isIndex e.1 = false → (flagToken test flags).has (test.modifier e.1) = true) ∧
      (tokenize (ruleText (flagRule key (flags.filter Prod.snd))) = tokenize (ruleText (flagRule key flags)) ↔
        ∀ e ∈ flags, e.2 = true) := by
  -- A flag tells that the test has modifiers, so that its name is read as its own; without one there is nothing to say.
  have hread : flags ≠ [] → tokenize (ruleText (flagRule key flags)) = [flagToken test flags] ∧
      tokenize (ruleText (flagRule key (flags.filter Prod.snd))) = [flagToken test (flags.filter Prod.snd)] := by
    intro hne
    obtain ⟨e, rest, hcons⟩ := List.exists_cons_of_ne_nil hne
    have he : e ∈ flags := by
      rw [hcons]
      exact .head _
    obtain ⟨hname, htest, hkeyne⟩ := plainName_of_knows hdirect (hflags e he).1 hkey
    have hwords : ∀ others : List (String × Bool), others ⊆ flags → ∀ word ∈ flagWords others, ModifierWord word := by
      intro others hsub word hword
      obtain ⟨d, hd, rfl⟩ := List.mem_map.1 (List.mem_filter.1 hword).1
      exact modifierWord_of_knows (hflags d (hsub hd)).1 (hflags d (hsub hd)).2
    exact ⟨tokenize_flagRule hname htest hdirect (hwords flags (List.Subset.refl _)) hkeyne,
      tokenize_flagRule hname htest hdirect (hwords _ List.filter_sublist.subset) hkeyne⟩
  refine ⟨fun hne => (hread hne).1, fun e he hindex => has_flagToken test he hindex, ?_⟩
  by_cases hne : flags = []
  · subst hne
    simp
  · obtain ⟨hflagged, hkept⟩ := hread hne
    rw [hflagged, hkept, List.singleton_inj]
    exact flagToken_filter_iff test

theorem flagRule_filter_iff_number : tokenize (ruleText (flagRule "Number" [("only", true), ("INT", true)])) =
    [{ test := .number, modifiers := [.only, .integer] }] := by
  have hflags : ∀ e ∈ [("only", true), ("INT", true)], Test.number.knows e.1 = true ∧ trim e.1 = e.1 := by decide
  have hread := (flagRule_filter_iff rfl (.inl rfl) hflags).1 (List.cons_ne_nil _ _)
  have htoken : flagToken .number [("only", true), ("INT", true)] =
      { test := .number, modifiers := [.only, .integer] } := by decide
  rwa [htoken] at hread

/-- A modifier that is turned off is there with a value; and a number that names one is not looked at, so that its flag
is taken for the name. -/
theorem flag_off_read :
    tokenize (ruleText (flagRule "number" [("only", false)])) =
        [{ test := .number, modifiers := [.only], values := ["false"] }] ∧
      tokenize (ruleText (flagRule "number" [])) = [{ test := .number }] ∧
      tokenize (ruleText (flagRule "ip" [("4", false)])) = [{ test := .ip, modifiers := [.unknown "false"] }] ∧
      tokenize (ruleText (flagRule "ip" [])) = [{ test := .ip }] := by
  have honly : ∀ word ∈ flagWords [("only", false)], ModifierWord word := by
    intro word hword
    obtain rfl : word = "only" := by
      have hwords : flagWords [("only", false)] = ["only"] := by decide
      rwa [hwords, List.mem_singleton] at hword
    have hknows : Test.number.knows "only" = true := by decide
    exact modifierWord_of_knows hknows (by decide)
  have hfour : ∀ word ∈ flagWords [("4", false)], ModifierWord word := by
    have hwords : flagWords [("4", false)] = [] := by decide
    rw [hwords]
    exact List.forall_mem_nil _
  have hnone : ∀ word ∈ flagWords [], ModifierWord word := List.forall_mem_nil _
  have hnumber : PlainName "number" ∧ Test.ofName "number" = .number :=
    ⟨⟨by decide, by decide, by decide⟩, by decide +kernel⟩
  have hip : PlainName "ip" ∧ Test.ofName "ip" = .ip := ⟨⟨by decide, by decide, by decide⟩, by decide +kernel⟩
  refine ⟨?_, ?_, ?_, ?_⟩
  · rw [tokenize_flagRule hnumber.1 hnumber.2 rfl honly (by decide)]
    decide
  · rw [tokenize_flagRule hnumber.1 hnumber.2 rfl hnone (by decide)]
    decide
  · rw [tokenize_flagRule hip.1 hip.2 rfl hfour (by decide)]
    decide
  · rw [tokenize_flagRule hip.1 hip.2 rfl hnone (by decide)]
    decide

end FieldRules
