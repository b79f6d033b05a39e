import FieldRules.Pattern.Dialect
import FieldRules.Proofs.Reading
/-!
# Where a delimited pattern ends

Patterns are cut off at two places. The compiler takes the last delimiter that only letters follow for the closing one,
and the reader of rules takes the first one that is not escaped. A pattern that compiles is read from a rule as it
stands just if the two are the same, that is if each delimiter in its body is escaped (`tokenize_compiled_iff`).
-/

namespace FieldRules

open FieldRules.Text

/-! ## What the compiler takes for the body -/

namespace Pattern

/-- Whatever the dialect, only a pattern that falls into a body and flags compiles. -/
theorem splitDelimited_of_isOk {dialect : Dialect} {p : String} (h : (compile dialect p).isOk = true) :
    ∃ body flags, splitDelimited p = .ok (body, flags) := by
  cases hsplit : splitDelimited p with
  | error e => simp [compile, hsplit, bind, Except.bind, Except.isOk, Except.toBool] at h
  | ok parts => exact ⟨parts.1, parts.2, rfl⟩

theorem eq_of_splitDelimited {p : String} {c : Char} {cs body flags : List Char} (hp : p.toList = c :: cs)
    (hc : isDelimiter c = true) (h : splitDelimited p = .ok (body, flags)) :
    cs = body ++ c :: flags ∧ c ∉ flags ∧ ∀ d ∈ flags, isAsciiLetter d = true := by
  unfold splitDelimited at h
  simp only [hp, hc, Bool.not_true, Bool.false_eq_true, if_false] at h
  split at h
  · rename_i flags' body' hcut
    split at h
    · rename_i hletters
      cases h
      obtain ⟨d, hd, hcs, hflags⟩ := cutAt_eq_some hcut
      obtain rfl : d = c := by simpa using hd
      refine ⟨?_, fun hmem => ?_, fun d hd => ?_⟩
      · rw [← List.reverse_reverse cs, hcs]
        simp
      · simpa using hflags d (List.mem_reverse.1 hmem)
      · exact List.all_eq_true.1 hletters d (List.mem_reverse.1 hd)
    · cases h
  · cases h

end Pattern

/-! ## What the reader of rules cuts off -/

namespace PatternStash

section
variable {c : Char} (hc : Pattern.isDelimiter c = true) {body flags : List Char}
include hc

theorem cutPattern_of_escapesEach (hbody : Pattern.EscapesEach c body) (hflags : ∀ d ∈ flags, isAsciiLetter d = true)
    (hnone : c ∉ flags) : cutPattern (c :: (body ++ c :: flags)) = (c :: (body ++ c :: flags), []) := by
  cases hend : Pattern.endsEscaping body with
  | false =>
    rw [cutPattern_closed hc hbody hend, List.takeWhile_eq_self_iff.2 hflags, List.dropWhile_eq_nil_iff.2 hflags]
  | true =>
    -- The last delimiter is escaped, too, so that the pattern is never closed.
    exact cutPattern_unclosed hc (hbody.append_cons hend hnone)

theorem cutPattern_of_not_escapesEach (hbody : ¬ Pattern.EscapesEach c body) :
    (cutPattern (c :: (body ++ c :: flags))).2 ≠ [] := by
  obtain ⟨inner, rest, rfl, hinner, hend⟩ := exists_closing hc hbody
  have hcs : inner ++ c :: rest ++ c :: flags = inner ++ c :: (rest ++ c :: flags) := by simp
  rw [hcs, cutPattern_closed hc hinner hend, dropWhile_append_cons (not_isAsciiLetter_of_isDelimiter hc)]
  simp

end

theorem mem_patterns_openSigns {cs : List Char} {p : String} (h : p ∈ Sign.patterns (openSigns cs).1) :
    ∃ head after, IsCellHead head ∧ cs = head ++ after ∧
      p = String.ofList (trimEndChars (cutPattern (trimStartChars after)).1) := by
  cases hcell : cellHead? cs with
  | none => simp [openSigns, hcell] at h
  | some cell =>
    obtain ⟨head, after⟩ := cell
    obtain ⟨hhead, rfl⟩ := cellHead?_eq_some_iff.1 hcell
    refine ⟨head, after, hhead, rfl, ?_⟩
    simpa [openSigns_head hhead, Sign.patterns_append] using h

/-- Each pattern of a rule was cut off behind a head, at the beginning of the rule or behind a separator. -/
theorem mem_patterns_outline {cs : List Char} {p : String} (h : p ∈ Sign.patterns (outline cs)) :
    ∃ before head after, cs = before ++ (head ++ after) ∧ (∀ c ∈ before.getLast?, isSeparator c = true) ∧
      IsCellHead head ∧ p = String.ofList (trimEndChars (cutPattern (trimStartChars after)).1) := by
  induction cs using outline.induct with
  | case1 cs hrest =>
    rw [outline_of_nil hrest, Sign.patterns_append, Sign.patterns_map_char, List.append_nil] at h
    obtain ⟨head, after, hhead, hcs, hp⟩ := mem_patterns_openSigns h
    exact ⟨[], head, after, hcs, by simp, hhead, hp⟩
  | case2 cs separator rest hrest ih =>
    rw [outline_of_cons hrest, Sign.patterns_append, Sign.patterns_append, Sign.patterns_map_char, List.append_nil,
      Sign.patterns_char, List.mem_append] at h
    rcases h with h | h
    · obtain ⟨head, after, hhead, hcs, hp⟩ := mem_patterns_openSigns h
      exact ⟨[], head, after, hcs, by simp, hhead, hp⟩
    · obtain ⟨before, head, after, rfl, hbefore, hhead, hp⟩ := ih h
      obtain ⟨opened, hcs, -⟩ := mentionsIgnore_openSigns cs
      obtain ⟨hseparator, hcut, -⟩ := piecesBy_of_dropWhile_cons hrest
      refine ⟨opened ++ ((openSigns cs).2.takeWhile fun c => !isSeparator c) ++ separator :: before, head, after, ?_, ?_,
        hhead, hp⟩
      · calc cs = opened ++ (openSigns cs).2 := hcs
          _ = opened ++ (((openSigns cs).2.takeWhile fun c => !isSeparator c) ++
              separator :: (before ++ (head ++ after))) := congrArg (opened ++ ·) hcut
          _ = _ := by simp
      · intro c hc
        rw [List.getLast?_append_of_ne_nil _ (List.cons_ne_nil _ _)] at hc
        cases before with
        | nil =>
          cases hc
          exact hseparator
        | cons d before =>
          rw [List.getLast?_cons_cons] at hc
          exact hbefore c hc

/-- No pattern of a rule is longer than the rule. -/
theorem length_of_mem_patterns {cs : List Char} {p : String} (h : p ∈ Sign.patterns (outline cs)) :
    p.toList.length ≤ cs.length := by
  obtain ⟨before, head, after, rfl, -, -, rfl⟩ := mem_patterns_outline h
  have htrim := (trimEndChars_isPrefix (cutPattern (trimStartChars after)).1).length_le
  have hcut := congrArg List.length (cutPattern_append_eq (trimStartChars after))
  have hstart := (List.dropWhile_sublist isBlank (l := after)).length_le
  rw [trimStartChars] at hcut
  rw [String.toList_ofList]
  simp only [List.length_append, trimStartChars] at hcut htrim ⊢
  omega

/-- Behind the pattern of its first cell the outline of a rule goes on with what was not cut off. -/
theorem exists_outline_head {head v : List Char} (hhead : IsCellHead head) (hstart : trimStartChars v = v) :
    ∃ p tail, outline (head ++ v) = head.map .char ++ .pattern p :: tail ∧
      p.toList.length ≤ (cutPattern v).1.length ∧
      ∀ q ∈ Sign.patterns tail, q.toList.length < (cutPattern v).2.length := by
  have hopen := openSigns_head hhead v
  have hlength : (String.ofList (trimEndChars (cutPattern v).1)).toList.length ≤ (cutPattern v).1.length := by
    rw [String.toList_ofList]
    exact (trimEndChars_isPrefix _).length_le
  rw [hstart] at hopen
  refine ⟨String.ofList (trimEndChars (cutPattern v).1), ?_⟩
  cases hrest : (cutPattern v).2.dropWhile fun c => !isSeparator c with
  | nil =>
    refine ⟨(cutPattern v).2.map .char, ?_, hlength, by simp⟩
    rw [outline_of_nil (by rw [hopen, hrest]), hopen]
    simp
  | cons separator after =>
    refine ⟨((cutPattern v).2.takeWhile fun c => !isSeparator c).map .char ++ .char separator :: outline after, ?_,
      hlength, fun q hq => ?_⟩
    · rw [outline_of_cons (by rw [hopen, hrest]), hopen]
      simp
    · have hq := length_of_mem_patterns (by simpa [Sign.patterns_append] using hq)
      have hdrop := (List.dropWhile_sublist (fun c => !isSeparator c) (l := (cutPattern v).2)).length_le
      rw [hrest, List.length_cons] at hdrop
      omega

/-- A value is left as it is, or is replaced by a pattern of the stash. -/
theorem restore_cases (stash : PatternStash) (value : String) :
    stash.restore value = value ∨ stash.restore value ∈ stash.patterns := by
  unfold restore
  simp only [Option.getD]
  split
  · rename_i p hp
    simp only [bind, Option.bind_eq_some_iff] at hp
    obtain ⟨-, -, -, -, n, -, hn⟩ := hp
    exact .inr (List.mem_of_getElem? hn)
  · exact .inl rfl

end PatternStash

/-! ## A pattern that is cut off early -/

/-- A rule that begins with a marked pattern is read as a test of patterns first, whose first value begins as marks
do. -/
theorem exists_tokenize_mark {rule : String} {head u : List Char} {stash : PatternStash}
    (hhead : PatternStash.IsCellHead head) (hlift : PatternStash.lift {} rule = (stash, String.ofList (head ++ '_' :: u)))
    (hignore : mentionsIgnore (PatternStash.lift {} rule).2 = false) : ∃ x vs more,
      tokenize rule = { test := .regex, values := (String.ofList ('_' :: x) :: vs).map stash.restore } :: more := by
  have hpieces : ∀ {c : Char}, PatternStash.isSeparator c = true →
      ∃ w ws, piecesBy (· == c) (head ++ '_' :: u) = (head ++ '_' :: w) :: ws := by
    intro c hc
    have hnone : ∀ d ∈ head ++ ['_'], (d == c) = false := by
      intro d hd
      have hplain : PatternStash.isSeparator d = false := by
        rcases List.mem_append.1 hd with hd | hd
        · exact hhead.not_isSeparator d hd
        · rw [List.mem_singleton.1 hd]
          rfl
      rw [beq_eq_false_iff_ne]
      rintro rfl
      rw [hc] at hplain
      cases hplain
    obtain ⟨w, ws, hw⟩ := exists_piecesBy_append hnone u
    exact ⟨w, ws, by simpa using hw⟩
  have hsep : PatternStash.isSeparator (if (head ++ '_' :: u).contains ';' then ';' else '|') = true := by
    split <;> rfl
  obtain ⟨w, ws, hw⟩ := hpieces hsep
  obtain ⟨x, vs, hvalues⟩ := exists_splitValues_cons (c := '_') rfl (by decide) (by decide) (trimEndChars w)
  refine ⟨x, vs, ws.flatMap (readCell stash), ?_⟩
  rw [tokenize_eq_flatMap hignore, hlift, String.toList_ofList, hw, List.flatMap_cons,
    readCell_opens hhead.opensValues, hvalues, List.singleton_append]

/-- A pattern that is cut off early is not what the rule is read as: its mark gets no value back, or a shorter one. -/
theorem tokenize_cut {head v : List Char} (hhead : PatternStash.IsCellHead head) (hstart : trimStartChars v = v)
    (hcut : (PatternStash.cutPattern v).2 ≠ []) (hfirst : v.head? ≠ some '_') :
    tokenize (String.ofList (head ++ v)) ≠ [{ test := .regex, values := [String.ofList v] }] := by
  intro hread
  obtain ⟨p, tail, houtline, hp, htail⟩ := PatternStash.exists_outline_head hhead hstart
  -- What is left of `v` behind the first cut makes each pattern of the rule shorter than `v`.
  have hshorter : String.ofList v ∉ p :: Sign.patterns tail := by
    have hlength := congrArg List.length (PatternStash.cutPattern_append_eq v)
    have hrest := List.length_pos_of_ne_nil hcut
    rw [List.length_append] at hlength
    rw [List.mem_cons]
    rintro (h | h)
    · rw [← h, String.toList_ofList] at hp
      omega
    · have hv := htail _ h
      rw [String.toList_ofList] at hv
      omega
  have hmark : (PatternStash.mark 0).toList = '_' :: (PatternStash.mark 0).toList.tail := rfl
  have hlift := PatternStash.lift_eq_outline (String.ofList (head ++ v))
  rw [String.toList_ofList, houtline, Sign.patterns_append, Sign.patterns_map_char, Sign.patterns_pattern,
    List.nil_append, Sign.shown_append, Sign.shown_map_char, Sign.shown, Sign.patterns_map_char, List.length_nil,
    hmark, List.cons_append] at hlift
  cases hignore : mentionsIgnore (PatternStash.lift {} (String.ofList (head ++ v))).2 with
  | true =>
    rw [tokenize_of_mentionsIgnore hignore] at hread
    cases hread
  | false =>
    obtain ⟨x, vs, more, htokens⟩ := exists_tokenize_mark hhead hlift hignore
    rw [htokens] at hread
    have hvalue : PatternStash.restore ⟨p :: Sign.patterns tail⟩ (String.ofList ('_' :: x)) = String.ofList v := by
      simpa using congrArg (fun tokens => tokens.head?.bind fun t => t.values.head?) hread
    -- A value that is no mark begins with an underscore still, and one that is a mark gives a pattern of the rule.
    rcases PatternStash.restore_cases ⟨p :: Sign.patterns tail⟩ (String.ofList ('_' :: x)) with h | h
    · rw [hvalue, String.ofList_inj] at h
      rw [h] at hfirst
      exact hfirst rfl
    · rw [hvalue] at h
      exact hshorter h

/-! ## Both ends of a pattern -/

/-- A delimited pattern that compiles in some dialect is read from a rule as it stands just if each delimiter in its
body, as the compiler takes it, is escaped. -/
theorem tokenize_compiled_iff (dialect : Pattern.Dialect) {p : String} {c : Char} {cs : List Char}
    (hp : p.toList = c :: cs) (hc : Pattern.isDelimiter c = true)
    (hcompile : (Pattern.compile dialect p).isOk = true) :
    ∃ body flags, Pattern.splitDelimited p = .ok (body, flags) ∧
      (tokenize ("re:" ++ p) = [{ test := .regex, values := [p] }] ↔ Pattern.EscapesEach c body) := by
  obtain ⟨body, flags, hsplit⟩ := Pattern.splitDelimited_of_isOk hcompile
  obtain ⟨rfl, hnone, hflags⟩ := Pattern.eq_of_splitDelimited hp hc hsplit
  have htext : "re:" ++ p = String.ofList ("re:".toList ++ c :: (body ++ c :: flags)) := by
    rw [← hp, ← String.toList_append, String.ofList_toList]
  have hvalue : p = String.ofList (c :: (body ++ c :: flags)) := by rw [← hp, String.ofList_toList]
  have hstart := PatternStash.trimStartChars_delimited hc (body ++ c :: flags)
  refine ⟨body, flags, hsplit, ?_, ?_⟩
  · intro hread
    by_contra hbody
    have hcut : (PatternStash.cutPattern (c :: (body ++ c :: flags))).2 ≠ [] :=
      PatternStash.cutPattern_of_not_escapesEach hc hbody
    refine tokenize_cut PatternStash.isCellHead_re hstart hcut ?_ ?_
    · rintro ⟨⟩
      cases hc
    · rw [← htext, ← hvalue, hread]
  · intro hbody
    have hend := PatternStash.trimEndChars_delimited hc hflags (c :: body)
    have hcut := PatternStash.cutPattern_of_escapesEach hc hbody hflags hnone
    have hread := tokenize_whole PatternStash.isCellHead_re hstart hend hcut
    rwa [← htext, ← hvalue] at hread

theorem tokenize_compiled_iff_path : (Pattern.compile Pattern.Expr.dialect "/^a\\/b;c$/i").isOk = true ∧
    tokenize ("re:" ++ "/^a\\/b;c$/i") = [{ test := .regex, values := ["/^a\\/b;c$/i"] }] := by
  have hcompile : (Pattern.compile Pattern.Expr.dialect "/^a\\/b;c$/i").isOk = true := by decide +kernel
  have hstart : "/^a\\/b;c$/i".toList = '/' :: "^a\\/b;c$/i".toList := by decide
  have hbody : Pattern.splitDelimited "/^a\\/b;c$/i" = .ok ("^a\\/b;c$".toList, ['i']) := by decide
  obtain ⟨body, flags, hsplit, hread⟩ := tokenize_compiled_iff Pattern.Expr.dialect hstart (by decide) hcompile
  rw [hbody] at hsplit
  cases hsplit
  exact ⟨hcompile, hread.2 (by decide)⟩

/-- A delimiter in a class needs no escape to compile, and the reader of rules takes it for the closing one. -/
theorem class_delimiter_cut : (Pattern.compile Pattern.Expr.dialect "/[/]/").isOk = true ∧
    tokenize ("re:" ++ "/[/]/") = [{ test := .regex, values := ["__RULEFORM_REGEX_VALUE_0__]/"] }] := by
  refine ⟨by decide +kernel, ?_⟩
  unfold tokenize
  rw [PatternStash.lift_eq_outline, PatternStash.outline_of_nil (by decide +kernel)]
  decide +kernel

end FieldRules
