import FieldRules.Proofs.Delivery
import FieldRules.Proofs.Membership
import FieldRules.Proofs.Options
import FieldRules.Proofs.Uploads
/-!
# Which uploads are known to be genuine

A record of an upload names a path, and whoever sends the record chooses the path. Only the check `file` asks whether
the path leads to a file that was uploaded; `mime` reads the bytes of any path. So in a valid call every file that was
sent to a field with `file` is one that was uploaded, and one that was sent to a field without it may be any file
(`Validation.uploads_genuine`).
-/

namespace FieldRules

/-! ## Checks of uploads -/

namespace Check

section
variable {scope : Scope} {t : Token} {u : Upload}

/-- A file that was sent is accepted just if it was sent in full and its path leads to a file that was uploaded. -/
theorem outcome_file (hsent : u.isMissing = false) : (file scope (.upload u)).outcome =
    if u.error ≠ 0 then .silent (.error (.uploadFailed u.error))
    else ⟨[.upload u.path],
      if scope.collaborators.isUploadedFile u.path then .ok .accepted else .error (.notUploaded u.name)⟩ := by
  simp only [file, hsent, Bool.false_eq_true, if_false]
  split
  · rfl
  · rw [outcome_ask_bind]
    cases scope.collaborators.isUploadedFile u.path <;> rfl

/-- The bytes of the upload can be read and show a type of the list. -/
def ShowsType (c : Collaborators) (list : List String) (u : Upload) : Prop :=
  ∃ bytes, c.contents u.path = some bytes ∧
    ∃ entry ∈ list, MediaType.matchesEntry (MediaType.sniff (bytes.take MediaType.sniffLength)) entry = true

/-- The type of an upload is accepted just if the bytes show one of the list, whatever is claimed. -/
theorem mime_eq_ok_iff {c : Collaborators} {outcome : Outcome} :
    mime c t (.upload u) = .ok outcome ↔ ShowsType c t.values u ∧ outcome = .accepted := by
  unfold mime ShowsType
  cases hvalues : t.values with
  | nil => simp [bind, Except.bind]
  | cons entry list =>
    cases hbytes : c.contents u.path <;>
      simp [Subject.expectUpload, Subject.upload?, bind, Except.bind, hbytes, accept_eq_ok_iff]

end

end Check

namespace Evaluation

variable {e : Evaluation} {u : Upload}

/-- An upload of a file that was sent is judged, if the token has no modifier that its test does not have. -/
theorem run_eq_judge (hs : e.subject = .upload u) (hsent : u.isMissing = false) (hu : e.token.unsupported? = none) :
    e.run = (Check.judge e.scope e.token (.upload u)).outcome := by
  have hset : (Subject.upload u).isUnset = false := hsent
  simp only [run, hs, Check.evaluate_of_supported hu, hset, Bool.and_false, Bool.false_eq_true, if_false]

theorem run_eq_judge_of_accepts (hs : e.subject = .upload u) (hsent : u.isMissing = false) (h : e.Accepts) :
    e.run = (Check.judge e.scope e.token (.upload u)).outcome := by
  cases hu : e.token.unsupported? with
  | some fault => exact absurd h (not_accepts_of_unsupported hu)
  | none => exact run_eq_judge hs hsent hu

/-- What `file` accepts was uploaded in full, and it has asked whether it was. -/
theorem genuine_of_accepts (ht : e.token.test = .file) (hs : e.subject = .upload u) (hsent : u.isMissing = false)
    (h : e.Accepts) :
    u.error = 0 ∧ e.scope.collaborators.isUploadedFile u.path = true ∧ .upload u.path ∈ e.run.calls := by
  have hrun := run_eq_judge_of_accepts hs hsent h
  obtain ⟨outcome, houtcome⟩ := h
  simp only [Check.judge, ht, Check.outcome_file hsent] at hrun
  rw [hrun] at houtcome ⊢
  by_cases herror : u.error = 0
  · cases hgenuine : e.scope.collaborators.isUploadedFile u.path <;> simp_all
  · rw [if_pos herror] at houtcome
    cases houtcome

/-- With no modifier that it does not have, `mime` accepts a file that was sent just if the bytes show a type of its
list. -/
theorem accepts_mime_iff (ht : e.token.test = .mime) (hs : e.subject = .upload u) (hsent : u.isMissing = false) :
    e.Accepts ↔ e.token.unsupported? = none ∧ Check.ShowsType e.scope.collaborators e.token.values u := by
  cases hu : e.token.unsupported? with
  | some fault => exact iff_of_false (not_accepts_of_unsupported hu) (by simp)
  | none =>
    have hrun : e.run = .silent (Check.mime e.scope.collaborators e.token (.upload u)) := by
      rw [run_eq_judge hs hsent hu]
      simp only [Check.judge, ht]
      rfl
    simp [Accepts, hrun, Traced.silent, Check.mime_eq_ok_iff]

/-- Only `file` asks whether a file was uploaded, and only of a file that was sent in full. -/
theorem file_of_mem_calls {path : String} (h : .upload path ∈ e.run.calls) :
    e.token.test = .file ∧ ∃ u, e.subject = .upload u ∧ u.path = path ∧ u.error = 0 := by
  have ht : e.token.test = .file := Test.mayAsk_upload_iff.1 (Check.asks_evaluate _ _ _ _ h)
  refine ⟨ht, ?_⟩
  cases hu : e.token.unsupported? with
  | some fault =>
    rw [run, Check.evaluate_of_unsupported hu] at h
    cases h
  | none =>
    simp only [run, Check.evaluate_of_supported hu, ht, Test.judgesEmpty, Bool.not_true, Bool.false_and,
      Bool.false_eq_true, if_false, Check.judge] at h
    cases hs : e.subject with
    | text s =>
      simp only [hs, Check.file] at h
      split at h <;> cases h
    | bool b =>
      rw [hs] at h
      cases h
    | upload u =>
      rw [hs] at h
      cases hsent : u.isMissing with
      | true =>
        simp only [Check.file, hsent, if_true] at h
        cases h
      | false =>
        rw [Check.outcome_file hsent] at h
        by_cases herror : u.error = 0
        · rw [if_neg (not_not_intro herror)] at h
          exact ⟨u, rfl, by simpa [eq_comm] using h, herror⟩
        · rw [if_pos herror] at h
          cases h

end Evaluation

/-! ## Leaves -/

namespace Walk

variable {scope : Scope} {ts : List Token} {v : Value} {u : Upload} {e : Evaluation}

/-- A check sees an upload just where the leaf is that upload. -/
theorem subject_upload_iff (h : e ∈ evaluations scope ts v) : e.subject = .upload u ↔ v = .upload u := by
  have hsubject : ∀ v : Value, Subject.ofValue v = .upload u ↔ v = .upload u := by
    intro v
    cases v <;> simp [Subject.ofValue]
  induction ts generalizing v with
  | nil => cases h
  | cons t ts ih =>
    unfold evaluations at h
    dsimp only at h
    split at h
    · rename_i outcome houtcome
      rcases List.mem_cons.1 h with rfl | h
      · exact hsubject v
      · refine (ih h).trans ⟨fun hupdate => ?_, ?_⟩
        · cases outcome with
          | accepted => exact hupdate
          | replaced s => cases hupdate
          | empty => cases v <;> first | exact hupdate | cases hupdate
        · rintro rfl
          exact Check.update_upload scope t u houtcome
    · rw [List.mem_singleton.1 h]
      exact hsubject v

end Walk

/-! ## Calls -/

namespace Validation

/-- A valid call has asked what its walk has asked. -/
theorem Stages.calls_eq {engine : Validation} {tree data : Value} {rules : List (String × Json)}
    (c : Stages engine tree rules data) : (engine.validateTree tree (.object rules)).calls =
      (Walk.fields engine.scope c.set (c.set.prefill (fieldsOf tree))).calls := by
  have hrun := run_eq c.policy_eq c.set_eq tree
  have hvalue := run_ok.2 ⟨c⟩
  rw [hrun] at hvalue
  rw [validateTree_of_run (hrun.trans (congrArg (Traced.mk _) hvalue))]

/-- In a valid call every test of a rule that does not see an array as one value has been put to every leaf of its
field and has accepted it, and the call has asked what it asked. -/
theorem Stages.exists_accepting {engine : Validation} {tree data : Value} {rules : List (String × Json)}
    (c : Stages engine tree rules data) {name : String} {v : Value} (hv : Keyed.get? (fieldsOf tree) name = some v)
    (hi : ¬ RuleHas rules name .ignore) {tokens : List Token} (htokens : fieldTokens? rules name = some tokens) {t : Token}
    (ht : t ∈ tokens) (hdeferred : t.test.isDeferred = false) (hleaf : t.test.takesWholeArray = false)
    {below : List String} {w : Value} (hw : v.At below w) (hwleaf : w.isMap = false) :
    ∃ scope ts, ∃ e ∈ Walk.evaluations scope ts w, scope.collaborators = engine.collaborators ∧ e.token = t ∧ e.Accepts ∧
      ∀ asked ∈ e.run.calls, asked ∈ (engine.validateTree tree (.object rules)).calls := by
  let rule := FieldRule.compiled tokens
  have hm : (name, rule) ∈ c.set := by
    apply Keyed.mem_of_get?
    rw [get?_rules c.set_eq, htokens]
    rfl
  have hignored : rule.ignore = false := by
    rw [← ignore_iff_of_mem c.set_eq hm] at hi
    simpa using hi
  have hset := RuleSet.distinct_ofTexts c.set_eq
  have hwalk := congrArg Walked.outcome c.walk_eq
  have hvisits : Walk.Visits c.set (c.set.prefill (fieldsOf tree)) name rule v :=
    ⟨hm, hignored, RuleSet.get?_prefill_of_some hv⟩
  have hplace : ([name] ++ below, w) ∈ rule.placesOf [name] v :=
    (Value.mem_places_iff v).2 ⟨below, rfl, .inl ⟨hw, hwleaf⟩⟩
  obtain ⟨e, he, htoken, haccept⟩ := Walk.exists_accepting_of_leaf_test
    (Walk.accepts_of_visits hset hwalk hvisits) (List.mem_filter.2 ⟨ht, by simp [hdeferred]⟩) hleaf hplace
  have hdue : e ∈ rule.evaluations engine.scope [name] v :=
    List.mem_append_right _ (List.mem_flatMap.2 ⟨([name] ++ below, w), hplace, he⟩)
  refine ⟨_, _, e, he, rule.scopeOf_collaborators engine.scope v, htoken, haccept, fun asked hasked => ?_⟩
  rw [c.calls_eq]
  exact Walk.mem_calls_of_visits hset hwalk hvisits hdue hasked

/-- Only `file` asks whether an upload is genuine, and only of the paths of uploads that were sent in full to fields whose
rules have it. In a valid call all tests of a rule have accepted every upload of a file that was sent to its field, unless
the field is passed through: if the rule has `file` then the upload was sent in full and the answer for its path was
yes; and if the rule has `mime` then the bytes at its path can be read and show a type of the list. That is all that
`mime` asks for: whatever the path, it accepts such an upload. -/
theorem uploads_genuine (engine : Validation) (tree : Value) (rules : List (String × Json)) :
    let call := engine.validateTree tree (.object rules)
    (∀ path, .upload path ∈ call.calls → ∃ name rule v, Due tree rules name rule v ∧ RuleHas rules name .file ∧
      ∃ below u, v.At below (.upload u) ∧ u.path = path ∧ u.error = 0) ∧
    ((∃ data, call.value = .ok (.valid data)) → ∀ name v, Keyed.get? (fieldsOf tree) name = some v →
      ¬ RuleHas rules name .ignore → ∀ below u, v.At below (.upload u) → u.isMissing = false →
        (RuleHas rules name .file →
          u.error = 0 ∧ engine.collaborators.isUploadedFile u.path = true ∧ .upload u.path ∈ call.calls) ∧
        ∀ tokens, fieldTokens? rules name = some tokens → ∀ t ∈ tokens, t.test = .mime →
          Check.ShowsType engine.collaborators t.values u) ∧
    ∀ e : Evaluation, e.scope.collaborators = engine.collaborators → e.token.test = .mime →
      ∀ u, e.subject = .upload u → u.isMissing = false →
        (e.Accepts ↔ e.token.unsupported? = none ∧ Check.ShowsType engine.collaborators e.token.values u) := by
  intro call
  refine ⟨fun path hcall => ?_, fun ⟨data, hvalid⟩ name v hv hi below u hu hsent => ?_, fun e hworld ht u hs hsent => ?_⟩
  · obtain ⟨name, rule, v, hdue, e, he, hasked⟩ := exists_due_of_mem_calls hcall rfl
    obtain ⟨htest, u, hs, hpath, herror⟩ := Evaluation.file_of_mem_calls hasked
    obtain ⟨place, hplace, he⟩ := Walk.exists_place_of_leaf_test he (by rw [htest]; rfl)
    have hupload := (Walk.subject_upload_iff he).1 hs
    refine ⟨name, rule, v, hdue, ?_, ?_⟩
    · obtain ⟨set, hset, hvisits⟩ := hdue
      obtain ⟨tokens, htokens, rfl⟩ := fieldTokens_of_mem hset hvisits.mem
      have hchecks := Walk.mem_checks_of_mem_leafChecks (Walk.mem_evaluations he).2
      exact ⟨tokens, htokens, e.token, List.mem_of_mem_filter hchecks, htest⟩
    · obtain ⟨below, -, ⟨hat, -⟩ | ⟨-, -, hempty⟩⟩ := (Value.mem_places_iff v).1 hplace
      · exact ⟨below, u, hupload ▸ hat, hpath, herror⟩
      · rw [hupload] at hempty
        cases hempty
  · obtain ⟨c⟩ := valid_iff.1 hvalid
    refine ⟨fun ⟨tokens, htokens, t, ht, htest⟩ => ?_, fun tokens htokens t ht htest => ?_⟩
    · obtain ⟨scope, ts, e, he, hworld, rfl, haccept, hcalls⟩ :=
        c.exists_accepting hv hi htokens ht (by rw [htest]; rfl) (by rw [htest]; rfl) hu rfl
      obtain ⟨herror, hgenuine, hasked⟩ :=
        Evaluation.genuine_of_accepts htest ((Walk.subject_upload_iff he).2 rfl) hsent haccept
      rw [(Walk.mem_evaluations he).1, hworld] at hgenuine
      exact ⟨herror, hgenuine, hcalls _ hasked⟩
    · obtain ⟨scope, ts, e, he, hworld, rfl, haccept, -⟩ :=
        c.exists_accepting hv hi htokens ht (by rw [htest]; rfl) (by rw [htest]; rfl) hu rfl
      obtain ⟨-, hshows⟩ := (Evaluation.accepts_mime_iff htest ((Walk.subject_upload_iff he).2 rfl) hsent).1 haccept
      rwa [(Walk.mem_evaluations he).1, hworld] at hshows
  · rw [Evaluation.accepts_mime_iff ht hs hsent, hworld]

theorem uploads_genuine_scan :
    let world : Collaborators := { Collaborators.mute with
      isUploadedFile := fun path => path == "in/1"
      contents := fun _ => some [104, 105] }
    let scan : Upload := { name := "a.txt", claimedType := "", path := "in/1", error := 0, size := 2 }
    let tree := Value.map [("scan", .map [("front", .upload scan)])]
    let rules := [("scan", Json.string "file;mime:text/*")]
    let call := { alone with collaborators := world }.validateTree tree (.object rules)
    let mime : Token := { test := .mime, values := ["text/*"] }
    call.value = .ok (.valid tree) ∧ RuleHas rules "scan" .file ∧ ¬ RuleHas rules "scan" .ignore ∧
      world.isUploadedFile scan.path = true ∧ .upload scan.path ∈ call.calls ∧
      Evaluation.Accepts { scope := { collaborators := world }, token := mime, subject := .upload scan } := by
  intro world scan tree rules call mime
  have hvalid : call.value = .ok (.valid tree) := by decide +kernel
  have hfile : RuleHas rules "scan" .file := by decide +kernel
  have hignore : ¬ RuleHas rules "scan" .ignore := by decide +kernel
  have hshows : Check.ShowsType world mime.values scan := ⟨[104, 105], rfl, "text/*", .head _, by decide +kernel⟩
  obtain ⟨-, hgenuine, haccepts⟩ := uploads_genuine { alone with collaborators := world } tree rules
  obtain ⟨-, hverified, hasked⟩ := (hgenuine ⟨tree, hvalid⟩ "scan" (.map [("front", .upload scan)]) rfl hignore ["front"]
    scan (.entry List.mem_cons_self (.root _)) rfl).1 hfile
  exact ⟨hvalid, hfile, hignore, hverified, hasked, (haccepts _ rfl rfl scan rfl rfl).2 ⟨rfl, hshows⟩⟩

/-- Without `file` the bytes of any file are read, and accepted, though no file was uploaded. -/
theorem forged_path_accepted :
    let world : Collaborators := { Collaborators.mute with
      contents := fun path => if path = "/etc/motd" then some [104, 105] else none }
    let forged : Upload := { name := "a.txt", claimedType := "", path := "/etc/motd", error := 0, size := 2 }
    let rules := [("scan", Json.string "mime:text/plain")]
    let call := { alone with collaborators := world }.validateTree (.map [("scan", .upload forged)]) (.object rules)
    RuleHas rules "scan" .mime ∧ ¬ RuleHas rules "scan" .ignore ∧ forged.isMissing = false ∧
      call.value = .ok (.valid (.map [("scan", .upload forged)])) ∧ world.isUploadedFile forged.path = false ∧
      call.calls = [] := by
  decide +kernel

end Validation

end FieldRules
