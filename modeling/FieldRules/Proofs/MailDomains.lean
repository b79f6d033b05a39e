import FieldRules.Proofs.Asking
import FieldRules.Proofs.Delivery
import FieldRules.Proofs.Membership
import FieldRules.Proofs.Options
import FieldRules.Proofs.Splitting
/-!
# Whom a mail check asks about

A check of mail addresses may ask a resolver for a domain. Whatever is sent, what it asks for is a host name with
points between its labels and a last label of letters (`Email.HostName`), and it is all that stands behind the only `@`
of the address. The check accepts an address just if the answer is yes, and what was not submitted without asking
(`Validation.mail_asked`).
-/

namespace FieldRules

open FieldRules.Text

/-! ## Host names -/

namespace Email

/-- A label of a host name: up to 63 letters, digits and hyphens, and no hyphen at either end. -/
structure HostLabel (label : List Char) : Prop where
  length_pos : 1 ≤ label.length
  length_le : label.length ≤ 63
  signs : ∀ c ∈ label, isAsciiLetter c = true ∨ isAsciiDigit c = true ∨ c = '-'
  head : label.head? ≠ some '-'
  last : label.getLast? ≠ some '-'

/-- A host name: at least two labels with points between, the last one of at least two letters. -/
def HostName (cs : List Char) : Prop :=
  ∃ labels top, labels ≠ [] ∧ cs = ['.'].intercalate (labels ++ [top]) ∧ (∀ label ∈ labels ++ [top], HostLabel label) ∧
    2 ≤ top.length ∧ ∀ c ∈ top, isAsciiLetter c = true

theorem isAlnum_iff {c : Char} : isAlnum c = true ↔ isAsciiLetter c = true ∨ isAsciiDigit c = true := by
  simp [isAlnum]

theorem isLabel_iff {cs : List Char} : isLabel cs = true ↔ HostLabel cs := by
  have hhyphen : isAlnum '-' = false := by decide
  cases cs with
  | nil =>
    constructor
    · intro h
      cases h
    · intro h
      exact absurd h.length_pos (by decide)
  | cons c cs =>
    have hmem : (c :: cs).getLast (List.cons_ne_nil c cs) ∈ c :: cs := List.getLast_mem _
    have hlast := List.getLast?_eq_some_getLast (List.cons_ne_nil c cs)
    simp only [isLabel, Bool.and_eq_true, decide_eq_true_eq, List.all_eq_true, Bool.or_eq_true, beq_iff_eq,
      List.head?_cons, Option.any_some, hlast]
    constructor
    · rintro ⟨⟨⟨⟨hpos, hle⟩, hsigns⟩, hhead⟩, hend⟩
      refine ⟨hpos, hle, fun d hd => ?_, ?_, ?_⟩
      · simpa [isAlnum_iff, or_assoc] using hsigns d hd
      · rintro ⟨⟩
        exact absurd hhead (by simp [hhyphen])
      · rw [hlast]
        intro he
        rw [Option.some.inj he, hhyphen] at hend
        cases hend
    · intro h
      have halnum : ∀ d ∈ c :: cs, d ≠ '-' → isAlnum d = true := fun d hd hne => by
        simpa [isAlnum_iff, hne] using h.signs d hd
      refine ⟨⟨⟨⟨h.length_pos, h.length_le⟩, fun d hd => ?_⟩, ?_⟩, ?_⟩
      · simpa [isAlnum_iff, or_assoc] using h.signs d hd
      · exact halnum c List.mem_cons_self fun he => h.head (by simp [he])
      · exact halnum _ hmem fun he => h.last (by rw [hlast, he])

theorem isTopLabel_iff {cs : List Char} :
    isTopLabel cs = true ↔ HostLabel cs ∧ 2 ≤ cs.length ∧ ∀ c ∈ cs, isAsciiLetter c = true := by
  have hhyphen : isAsciiLetter '-' = false := by decide
  simp only [isTopLabel, Bool.and_eq_true, decide_eq_true_eq, List.all_eq_true]
  constructor
  · rintro ⟨⟨htwo, hle⟩, hletters⟩
    have hne : '-' ∉ cs := fun hm => absurd (hletters '-' hm) (by simp [hhyphen])
    refine ⟨⟨by omega, hle, fun c hc => .inl (hletters c hc), ?_, ?_⟩, htwo, hletters⟩
    · exact fun he => hne (List.mem_of_head? he)
    · exact fun he => hne (List.mem_of_getLast? he)
  · rintro ⟨hlabel, htwo, hletters⟩
    exact ⟨⟨htwo, hlabel.length_le⟩, hletters⟩

theorem areLabels_concat {labels : List (List Char)} (h : labels ≠ []) (top : List Char) :
    areLabels (labels ++ [top]) = (labels.all isLabel && isTopLabel top) := by
  induction labels with
  | nil => exact absurd rfl h
  | cons label labels ih =>
    cases labels with
    | nil => simp [areLabels]
    | cons next labels =>
      have hcons : areLabels (label :: next :: labels ++ [top]) = (isLabel label && areLabels (next :: labels ++ [top])) := by
        cases labels <;> rfl
      rw [hcons, ih (List.cons_ne_nil next labels), ← Bool.and_assoc, ← List.all_cons]

theorem exists_of_areLabels {pieces : List (List Char)} (h : areLabels pieces = true) :
    ∃ labels top, labels ≠ [] ∧ pieces = labels ++ [top] := by
  rcases List.eq_nil_or_concat pieces with rfl | ⟨labels, top, rfl⟩
  · cases h
  · refine ⟨labels, top, ?_, List.concat_eq_append⟩
    rintro rfl
    cases h

/-- What is accepted as a domain is a host name, and any host name is. -/
theorem isDomain_iff {cs : List Char} : isDomain cs = true ↔ HostName cs := by
  have hpoint : ∀ label, HostLabel label → '.' ∉ label := by
    intro label hlabel hm
    have hsign := hlabel.signs '.' hm
    revert hsign
    decide
  constructor
  · intro h
    obtain ⟨labels, top, hne, hpieces⟩ := exists_of_areLabels h
    rw [isDomain, hpieces, areLabels_concat hne, Bool.and_eq_true, List.all_eq_true, isTopLabel_iff] at h
    obtain ⟨hlabels, htop, htwo, hletters⟩ := h
    refine ⟨labels, top, hne, ?_, ?_, htwo, hletters⟩
    · rw [← hpieces, piecesBy_eq_splitOnP]
      exact (List.intercalate_splitOn '.').symm
    · rw [List.forall_mem_append, List.forall_mem_singleton]
      exact ⟨fun label hlabel => isLabel_iff.1 (hlabels label hlabel), htop⟩
  · rintro ⟨labels, top, hne, rfl, hlabels, htwo, hletters⟩
    have hsplit : piecesBy (· == '.') (['.'].intercalate (labels ++ [top])) = labels ++ [top] := by
      rw [piecesBy_eq_splitOnP]
      exact List.splitOn_intercalate '.' (fun label hlabel => hpoint label (hlabels label hlabel)) (by simp)
    rw [List.forall_mem_append, List.forall_mem_singleton] at hlabels
    rw [isDomain, hsplit, areLabels_concat hne, Bool.and_eq_true, List.all_eq_true, isTopLabel_iff]
    exact ⟨fun label hlabel => isLabel_iff.2 (hlabels.1 label hlabel), hlabels.2, htwo, hletters⟩

theorem HostName.at_not_mem {cs : List Char} (h : HostName cs) : '@' ∉ cs := by
  obtain ⟨labels, top, -, rfl, hlabels, -, -⟩ := h
  refine not_mem_intercalate (by decide) fun label hlabel hm => ?_
  have hsign := (hlabels label hlabel).signs '@' hm
  revert hsign
  decide

/-! ## Addresses -/

/-- The domain is all that stands behind the only `@` of the address. -/
def Splits (address domain : String) : Prop :=
  ∃ front : List Char, address.toList = front ++ '@' :: domain.toList ∧ '@' ∉ front ∧ '@' ∉ domain.toList

theorem Splits.cutLast {address domain : String} (h : Splits address domain) :
    ∃ front, cutLast '@' address = some (front, domain) := by
  obtain ⟨front, haddress, -, hdomain⟩ := h
  have hreverse : address.toList.reverse = domain.toList.reverse ++ '@' :: front.reverse := by simp [haddress]
  have hnone : ∀ c ∈ domain.toList.reverse, (c == '@') = false := fun c hc => by
    simpa using fun he : c = '@' => hdomain (he ▸ List.mem_reverse.1 hc)
  refine ⟨String.ofList front, ?_⟩
  rw [Text.cutLast, hreverse, cutAt_append hnone (by rfl)]
  simp

/-- An address has one `@`, and a host name behind it. -/
theorem exists_splits {address : String} (h : isEmail address = true) :
    ∃ domain, Splits address domain ∧ HostName domain.toList := by
  obtain ⟨⟨front, domain⟩, hparts⟩ := Option.isSome_iff_exists.1 (Bool.and_eq_true_iff.1 h).2
  obtain ⟨hcut, hboth⟩ := Option.filter_eq_some_iff.1 hparts
  obtain ⟨c, hc, haddress, hfront⟩ := cutAt_eq_some hcut
  obtain rfl := eq_of_beq hc
  have hdomain := isDomain_iff.1 (Bool.and_eq_true_iff.1 hboth).2
  refine ⟨String.ofList domain, ⟨front, ?_, fun hm => ?_, ?_⟩, ?_⟩
  · rw [haddress, String.toList_ofList]
  · simpa using hfront '@' hm
  · rw [String.toList_ofList]
    exact hdomain.at_not_mem
  · rwa [String.toList_ofList]

end Email

/-! ## The check -/

namespace Check

section
variable {c : Collaborators} {t : Token} {x : String}

theorem email_of_not_isEmail (h : Email.isEmail (trim x) = false) :
    (email c t (.text x)).outcome = .silent (.error .notEmail) := by
  simp only [email, trimmedText, Subject.text?, ofExcept_ok_bind, h, Bool.not_false, if_true]
  rfl

theorem email_of_not_has (h : Email.isEmail (trim x) = true) (ht : t.has .domain = false) :
    (email c t (.text x)).outcome = .silent (.ok .accepted) := by
  simp only [email, trimmedText, Subject.text?, ofExcept_ok_bind, h, ht, Bool.not_true, Bool.not_false,
    Bool.false_eq_true, if_false, if_true]
  rfl

/-- What a resolver says of a domain. -/
def mailAnswer (domain : String) : Option Bool → Except Fault Outcome
  | some true => .ok .accepted
  | some false => .error (.domainRefusesMail domain)
  | none => .error (.domainUnverified domain)

theorem email_of_splits (h : Email.isEmail (trim x) = true) (ht : t.has .domain = true) {domain : String}
    (hdomain : Email.Splits (trim x) domain) :
    (email c t (.text x)).outcome = ⟨[.mx domain], mailAnswer domain (c.hasMx domain)⟩ := by
  obtain ⟨front, hcut⟩ := hdomain.cutLast
  simp only [email, trimmedText, Subject.text?, ofExcept_ok_bind, h, ht, hcut, Bool.not_true, Bool.false_eq_true,
    if_false, outcome_ask_bind]
  rcases c.hasMx domain with _ | _ | _ <;> rfl

end

end Check

/-- The token has mail addresses checked and a resolver asked for their domains. -/
def Token.AsksMail (t : Token) : Prop := t.test = .email ∧ t.has .domain = true

namespace Evaluation

variable {e : Evaluation}

theorem run_of_email (ht : e.token.test = .email) : e.run =
    match e.token.unsupported? with
    | some fault => .silent (.error fault)
    | none => if e.subject.isUnset then .silent (.ok .empty)
      else (Check.email e.scope.collaborators e.token e.subject).outcome := by
  cases hu : e.token.unsupported? with
  | some fault => exact Check.evaluate_of_unsupported hu e.scope e.subject
  | none =>
    rw [run, Check.evaluate_of_supported hu, ht]
    simp only [Test.judgesEmpty, Bool.not_false, Bool.true_and, Check.judge, ht]
    cases e.subject.isUnset <;> rfl

/-- A check of a subject that is no text, or of a text that is no address, asks for nothing. -/
theorem email_cases (ht : e.token.test = .email) :
    (∃ r, e.run = .silent r ∧ (e.token.has .domain = true → ∀ outcome, r = .ok outcome →
      e.subject.isUnset = true ∧ outcome = .empty)) ∨
    e.token.has .domain = true ∧ ∃ x domain, e.subject = .text x ∧ Email.Splits (trim x) domain ∧
      Email.HostName domain.toList ∧
      e.run = ⟨[.mx domain], Check.mailAnswer domain (e.scope.collaborators.hasMx domain)⟩ := by
  rw [run_of_email ht]
  split
  · exact .inl ⟨_, rfl, fun _ outcome h => by cases h⟩
  · split
    · rename_i hunset
      refine .inl ⟨_, rfl, fun _ outcome h => ⟨hunset, ?_⟩⟩
      cases h
      rfl
    · cases e.subject with
      | bool b => exact .inl ⟨_, rfl, fun _ outcome h => by cases h⟩
      | upload u => exact .inl ⟨_, rfl, fun _ outcome h => by cases h⟩
      | text x =>
        cases hx : Email.isEmail (trim x) with
        | false =>
          rw [Check.email_of_not_isEmail hx]
          exact .inl ⟨_, rfl, fun _ outcome h => by cases h⟩
        | true =>
          cases hd : e.token.has .domain with
          | false =>
            rw [Check.email_of_not_has hx hd]
            exact .inl ⟨_, rfl, fun h => by cases h⟩
          | true =>
            obtain ⟨domain, hsplits, hname⟩ := Email.exists_splits hx
            exact .inr ⟨rfl, x, domain, rfl, hsplits, hname, Check.email_of_splits hx hd hsplits⟩

/-- Only checks of mail addresses ask a resolver, and only for the domain of the address. -/
theorem asksMail_of_mem_calls {domain : String} (h : .mx domain ∈ e.run.calls) : e.token.AsksMail ∧
    Email.HostName domain.toList ∧ ∃ x, e.subject = .text x ∧ Email.Splits (trim x) domain := by
  have ht : e.token.test = .email := Test.mayAsk_mx_iff.1 (Check.asks_evaluate _ _ _ _ h)
  rcases email_cases ht with ⟨r, hrun, -⟩ | ⟨hd, x, domain', hx, hsplits, hname, hrun⟩
  · rw [hrun] at h
    cases h
  · rw [hrun] at h
    obtain rfl : domain = domain' := by simpa using h
    exact ⟨⟨ht, hd⟩, hname, x, hx, hsplits⟩

/-- A check that asks a resolver accepts what was not submitted without asking, and an address only if the answer for
its domain is yes. -/
theorem accepts_of_asksMail (ht : e.token.AsksMail) (h : e.Accepts) :
    e.subject.isUnset = true ∧ e.run = .silent (.ok .empty) ∨
      ∃ x domain, e.subject = .text x ∧ Email.Splits (trim x) domain ∧
        e.scope.collaborators.hasMx domain = some true ∧ e.run = ⟨[.mx domain], .ok .accepted⟩ := by
  obtain ⟨outcome, houtcome⟩ := h
  rcases email_cases ht.1 with ⟨r, hrun, hr⟩ | ⟨-, x, domain, hx, hsplits, -, hrun⟩
  · rw [hrun] at houtcome
    obtain ⟨hunset, rfl⟩ := hr ht.2 outcome houtcome
    rw [show r = .ok .empty from houtcome] at hrun
    exact .inl ⟨hunset, hrun⟩
  · rw [hrun] at houtcome
    rcases hanswer : e.scope.collaborators.hasMx domain with _ | _ | _
    · rw [hanswer] at houtcome
      cases houtcome
    · rw [hanswer] at houtcome
      cases houtcome
    · rw [hanswer] at hrun
      exact .inr ⟨x, domain, hx, hsplits, hanswer, hrun⟩

end Evaluation

/-! ## Calls -/

namespace Validation

/-- A resolver is asked only for host names. What it is asked for in a call is the whole part behind the only `@` of the
trimmed text of a leaf, as the checks before left it, and a check of mail addresses with `domain` asks. Such a check
accepts what was not submitted without asking, and any other leaf only if the resolver says yes to the domain behind
its only `@`. In a valid call it has accepted every leaf of the fields whose rules have it. -/
theorem mail_asked (engine : Validation) (tree : Value) (rules : List (String × Json)) :
    let call := engine.validateTree tree (.object rules)
    (∀ domain, .mx domain ∈ call.calls → Email.HostName domain.toList ∧
      ∃ name rule v, Due tree rules name rule v ∧ ∃ place ∈ rule.placesOf [name] v,
        ∃ e ∈ Walk.evaluations (rule.scopeOf engine.scope v) (rule.leafChecks v) place.2,
          e.token.AsksMail ∧ ∃ x, e.subject = .text x ∧ Email.Splits (trim x) domain) ∧
    ∀ name rule v, Due tree rules name rule v → ∀ place ∈ rule.placesOf [name] v,
      (∀ e ∈ Walk.evaluations (rule.scopeOf engine.scope v) (rule.leafChecks v) place.2,
        e.token.AsksMail → e.Accepts →
          e.subject.isUnset = true ∧ e.run = .silent (.ok .empty) ∨
            ∃ x domain, e.subject = .text x ∧ Email.Splits (trim x) domain ∧
              engine.collaborators.hasMx domain = some true ∧ e.run = ⟨[.mx domain], .ok .accepted⟩) ∧
      ((∃ data, call.value = .ok (.valid data)) → ∀ t ∈ rule.checks, t.AsksMail →
        ∃ e ∈ Walk.evaluations (rule.scopeOf engine.scope v) (rule.leafChecks v) place.2, e.token = t ∧ e.Accepts) := by
  intro call
  have hleaf : ∀ t : Token, t.AsksMail → t.test.takesWholeArray = false := by
    rintro t ⟨ht, -⟩
    rw [ht]
    rfl
  refine ⟨fun domain hcall => ?_, fun name rule v hdue place hplace => ⟨fun e he hmail haccepts => ?_, ?_⟩⟩
  · obtain ⟨name, rule, v, hdue, e, he, hasked⟩ := exists_due_of_mem_calls hcall rfl
    obtain ⟨hmail, hname, x, hx, hsplits⟩ := Evaluation.asksMail_of_mem_calls hasked
    obtain ⟨place, hplace, he⟩ := Walk.exists_place_of_leaf_test he (hleaf _ hmail)
    exact ⟨hname, name, rule, v, hdue, place, hplace, e, he, hmail, x, hx, hsplits⟩
  · have h := Evaluation.accepts_of_asksMail hmail haccepts
    rwa [(Walk.mem_evaluations he).1, FieldRule.scopeOf_collaborators] at h
  · rintro ⟨data, hvalid⟩ t ht hmail
    obtain ⟨c⟩ := valid_iff.1 hvalid
    obtain ⟨set, hset, hvisits⟩ := hdue
    obtain rfl : c.set = set := by simpa [c.set_eq] using hset
    have haccepts := Walk.accepts_of_visits (RuleSet.distinct_ofTexts hset) (congrArg Walked.outcome c.walk_eq) hvisits
    exact Walk.exists_accepting_of_leaf_test haccepts ht (hleaf t hmail) hplace

theorem mail_asked_contact :
    let world : Collaborators := { Collaborators.mute with hasMx := fun _ => some true }
    let tree := Value.map [("contact", .map [("mail", .text " ann@example.org ")])]
    let call := { alone with collaborators := world }.validateTree tree (.object [("contact", .string "email:domain")])
    call.calls = [.mx "example.org"] ∧ Email.HostName "example.org".toList := by
  intro world tree call
  have hcalls : call.calls = [.mx "example.org"] := by decide +kernel
  have hmem : Call.mx "example.org" ∈ call.calls := hcalls ▸ List.mem_singleton_self _
  exact ⟨hcalls, ((mail_asked _ _ _).1 _ hmem).1⟩

/-- A blank leaf passes the check without a question, so also where the resolver never says yes. -/
theorem blank_mail_unasked :
    let tree := Value.map [("mail", .text "")]
    let rules := [("mail", Json.string "email:domain")]
    let call := alone.validateTree tree (.object rules)
    (∀ domain, alone.collaborators.hasMx domain ≠ some true) ∧ call.calls = [] ∧ call.value = .ok (.valid (.map [])) ∧
      ∃ rule v, Due tree rules "mail" rule v ∧
        ∃ e ∈ rule.evaluations alone.scope ["mail"] v, e.token.AsksMail ∧ e.subject = .text "" ∧ e.Accepts := by
  intro tree rules call
  let rule : FieldRule := { checks := [{ test := .email, modifiers := [.domain] }] }
  have hread : FieldRule.ofTokens (tokenize "email:domain") = .ok rule := by
    rw [tokenize_of_ascii (by decide) (by decide)]
    decide
  have hset : RuleSet.ofTexts (splitRules rules).2 = .ok [("mail", rule)] := ofTexts_of_one rfl hread
  have hdue : Due tree rules "mail" rule (.text "") := ⟨_, hset, List.mem_singleton_self _, rfl, rfl⟩
  refine ⟨fun domain h => (by cases h), by decide +kernel, by decide +kernel, rule, _, hdue, ?_⟩
  exact ⟨_, List.mem_singleton_self _, ⟨rfl, rfl⟩, rfl, .empty, rfl⟩

end Validation

end FieldRules
