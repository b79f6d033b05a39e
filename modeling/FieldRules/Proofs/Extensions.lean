import FieldRules.Proofs.Membership
import FieldRules.Proofs.SmallForms
import Mathlib.Data.List.Sort
import Mathlib.Data.String.Basic
/-!
# Lists of extensions

A list of extensions stands for itself with all siblings of its members. The expanded list is closed: it has what it
was made of, and expanding it again changes nothing. So the test of extensions with a list is its strict form with the
expanded one, and what the strict form accepts with a list it accepts, too (`extension_expanded`).
-/

namespace FieldRules

namespace Text

/-! ## Sorted lists -/

theorem pairwise_insertDistinct (s : String) {xs : List String} (h : xs.Pairwise (· < ·)) :
    (insertDistinct s xs).Pairwise (· < ·) := by
  induction xs with
  | nil => simp [insertDistinct]
  | cons x xs ih =>
    obtain ⟨hx, hxs⟩ := List.pairwise_cons.1 h
    unfold insertDistinct
    split
    · exact h
    · rename_i hne
      split
      · rename_i hlt
        refine List.pairwise_cons.2 ⟨fun y hy => ?_, h⟩
        rcases List.mem_cons.1 hy with rfl | hy
        · exact hlt
        · exact lt_trans hlt (hx y hy)
      · rename_i hle
        refine List.pairwise_cons.2 ⟨fun y hy => ?_, ih hxs⟩
        rcases mem_insertDistinct.1 hy with rfl | hy
        · exact lt_of_le_of_ne (not_lt.1 hle) (Ne.symm hne)
        · exact hx y hy

theorem pairwise_sortDistinct (xs : List String) : (sortDistinct xs).Pairwise (· < ·) := by
  induction xs with
  | nil => exact List.Pairwise.nil
  | cons x xs ih => exact pairwise_insertDistinct x ih

/-- A sorted list is told by its members. -/
theorem sortDistinct_congr {xs ys : List String} (h : ∀ s, s ∈ xs ↔ s ∈ ys) : sortDistinct xs = sortDistinct ys := by
  refine (pairwise_sortDistinct xs).eq_of_mem_iff (pairwise_sortDistinct ys) fun s => ?_
  rw [mem_sortDistinct, mem_sortDistinct, h]

end Text

open Text

/-! ## Extensions and their siblings -/

/-- An extension as it is compared is left as it is. -/
theorem plainExtension_plainExtension (s : String) : plainExtension (plainExtension s) = plainExtension s := by
  have hpoint : (plainExtension s).toList.dropWhile (· == '.') = (plainExtension s).toList := by
    cases hcs : (plainExtension s).toList with
    | nil => rfl
    | cons c cs =>
      -- A point in front would be one of the text in small letters, whose leading points are gone.
      rw [List.dropWhile_cons_of_neg]
      intro hc
      have hhead : (plainExtension s).toList.head? = some '.' := by rw [hcs, List.head?_cons, eq_of_beq hc]
      have hfirst := head?_toList_lower hhead
      rw [String.toList_ofList] at hfirst
      have hnone := List.head?_dropWhile_not (· == '.') s.toList
      rw [hfirst] at hnone
      cases hnone
  calc plainExtension (plainExtension s)
    _ = lower (plainExtension s) := by rw [plainExtension, hpoint, String.ofList_toList]
    _ = plainExtension s := lower_lower _

theorem plainExtension_of_letters {e : String} (h : ∀ c ∈ e.toList, 0x61 ≤ c.toNat ∧ c.toNat ≤ 0x7A) :
    plainExtension e = e := by
  have hpoint : e.toList.dropWhile (· == '.') = e.toList := by
    cases hcs : e.toList with
    | nil => rfl
    | cons c cs =>
      have hc : (c == '.') = false := by
        rw [beq_eq_false_iff_ne]
        rintro rfl
        exact absurd (h '.' (hcs ▸ List.mem_cons_self)).1 (by decide)
      rw [List.dropWhile_cons_of_neg (by rw [hc]; decide)]
  rw [plainExtension, hpoint, String.ofList_toList]
  exact lower_eq_self_iff.2 fun c hc => Unicode.isSmall_of_ascii (h c hc).1 (h c hc).2

/-- Siblings are of small letters, and each is in one group. -/
theorem siblings_closed : (siblings.all fun group => group.all fun e =>
    e.toList.all (fun c => 0x61 ≤ c.toNat && c.toNat ≤ 0x7A) && withSiblings e == group) = true := by decide +kernel

theorem mem_withSiblings (e : String) : e ∈ withSiblings e := by
  unfold withSiblings
  cases h : siblings.find? (·.contains e) with
  | none => exact List.mem_singleton_self e
  | some group => simpa using List.find?_some h

theorem of_mem_withSiblings {e t : String} (h : t ∈ withSiblings e) :
    t = e ∨ plainExtension t = t ∧ withSiblings t = withSiblings e := by
  unfold withSiblings at h ⊢
  cases hgroup : siblings.find? (·.contains e) with
  | none =>
    rw [hgroup] at h
    exact .inl (List.mem_singleton.1 h)
  | some group =>
    rw [hgroup] at h
    have hclosed := List.all_eq_true.1 siblings_closed group (List.mem_of_find?_eq_some hgroup)
    obtain ⟨hletters, hsame⟩ := Bool.and_eq_true_iff.1 (List.all_eq_true.1 hclosed t h)
    exact .inr ⟨plainExtension_of_letters (by simpa using hletters), eq_of_beq hsame⟩

/-- A member of an expanded list is written as it is compared, and its siblings are those of an entry. -/
theorem mem_expandExtensions {t : String} {list : List String} :
    t ∈ expandExtensions list ↔ ∃ s ∈ list, t ∈ withSiblings (plainExtension s) := by
  rw [expandExtensions, mem_sortDistinct, List.mem_flatMap]

theorem plainExtension_of_mem {t : String} {list : List String} (h : t ∈ expandExtensions list) :
    plainExtension t = t := by
  obtain ⟨s, -, ht⟩ := mem_expandExtensions.1 h
  rcases of_mem_withSiblings ht with rfl | ⟨hplain, -⟩
  · exact plainExtension_plainExtension s
  · exact hplain

theorem withSiblings_subset {e t : String} (h : t ∈ withSiblings e) : withSiblings t = withSiblings e := by
  rcases of_mem_withSiblings h with rfl | ⟨-, hsame⟩
  · rfl
  · exact hsame

theorem plainExtension_mem_expandExtensions {s : String} {list : List String} (h : s ∈ list) :
    plainExtension s ∈ expandExtensions list := mem_expandExtensions.2 ⟨s, h, mem_withSiblings _⟩

theorem map_plainExtension_expandExtensions (list : List String) :
    (expandExtensions list).map plainExtension = expandExtensions list :=
  (List.map_congr_left fun _ h => plainExtension_of_mem h).trans (List.map_id _)

theorem expandExtensions_expandExtensions (list : List String) :
    expandExtensions (expandExtensions list) = expandExtensions list := by
  refine sortDistinct_congr fun t => ?_
  rw [List.mem_flatMap, List.mem_flatMap]
  constructor
  · rintro ⟨e, he, ht⟩
    obtain ⟨s, hs, hes⟩ := mem_expandExtensions.1 he
    rw [plainExtension_of_mem he, withSiblings_subset hes] at ht
    exact ⟨s, hs, ht⟩
  · rintro ⟨s, hs, ht⟩
    refine ⟨plainExtension s, plainExtension_mem_expandExtensions hs, ?_⟩
    rwa [plainExtension_plainExtension]

theorem expandExtensions_mono {list wider : List String} (h : list ⊆ wider) :
    expandExtensions list ⊆ expandExtensions wider := by
  intro t ht
  obtain ⟨s, hs, ht⟩ := mem_expandExtensions.1 ht
  exact mem_expandExtensions.2 ⟨s, h hs, ht⟩

theorem expandExtensions_eq_nil_iff {list : List String} : expandExtensions list = [] ↔ list = [] := by
  constructor
  · intro h
    rw [List.eq_nil_iff_forall_not_mem]
    intro s hs
    have hplain := plainExtension_mem_expandExtensions hs
    rw [h] at hplain
    cases hplain
  · rintro rfl
    rfl

/-! ## The test of extensions -/

/-- The test of extensions with some modifiers. -/
def extensionTest (modifiers : List Modifier) (list : List String) : Token :=
  { test := .extension, modifiers, values := list }

/-- The extensions that the test allows. -/
def allowedExtensions (modifiers : List Modifier) (list : List String) : List String :=
  if modifiers.contains .strict then list.map plainExtension else expandExtensions list

theorem check_extension (modifiers : List Modifier) (list : List String) (u : Upload) :
    Check.extension (extensionTest modifiers list) (.upload u) =
      if list = [] then .error (.missingValue Test.extension.name)
      else accept (u.extension?.any (allowedExtensions modifiers list).contains) (.extensionNotAllowed list) := by
  cases list <;> rfl

/-- An upload passes the test if no file was sent, or if there is a list and it allows the extension of the file. -/
theorem value_run_extension (scope : Scope) {modifiers : List Modifier} (hm : modifiers ⊆ [.strict]) (list : List String)
    (u : Upload) {outcome : Outcome} :
    (Evaluation.mk scope (extensionTest modifiers list) (.upload u)).run.value = .ok outcome ↔
      if u.isMissing then outcome = .empty
      else list ≠ [] ∧ (∃ ext ∈ allowedExtensions modifiers list, u.extension? = some ext) ∧ outcome = .accepted := by
  have hsupported : (extensionTest modifiers list).unsupported? = none := Token.unsupported?_eq_none_iff.2 fun m h => by
    rw [List.mem_singleton.1 (hm h)]
    rfl
  have hrun : (Evaluation.mk scope (extensionTest modifiers list) (.upload u)).run.value =
      if u.isMissing then .ok .empty else Check.extension (extensionTest modifiers list) (.upload u) := by
    rw [Evaluation.run, Check.value_evaluate_of_supported hsupported]
    rfl
  have hallowed : u.extension?.any (allowedExtensions modifiers list).contains = true ↔
      ∃ ext ∈ allowedExtensions modifiers list, u.extension? = some ext := by
    cases u.extension? <;> simp
  rw [hrun, check_extension, ← hallowed]
  split
  · simp [eq_comm]
  · split
    · rename_i hnil
      simp [hnil]
    · rename_i hne
      simp [hne, Check.accept_eq_ok_iff]

/-- An expanded list has each entry as it is compared, is left as it is when it is expanded again, and grows with the
list. The test of extensions ends with a list as its strict form ends with the expanded one; so it accepts what the
strict form accepts with the list. -/
theorem extension_expanded (list : List String) :
    (∀ s ∈ list, plainExtension s ∈ expandExtensions list) ∧
    expandExtensions (expandExtensions list) = expandExtensions list ∧
    (∀ wider, list ⊆ wider → expandExtensions list ⊆ expandExtensions wider) ∧
    ∀ scope u outcome,
      ((Evaluation.mk scope (extensionTest [] list) (.upload u)).run.value = .ok outcome ↔
        (Evaluation.mk scope (extensionTest [.strict] (expandExtensions list)) (.upload u)).run.value = .ok outcome) ∧
      ((Evaluation.mk scope (extensionTest [.strict] list) (.upload u)).run.value = .ok outcome →
        (Evaluation.mk scope (extensionTest [] list) (.upload u)).run.value = .ok outcome) := by
  have hdefault : allowedExtensions [] list = expandExtensions list := rfl
  have hstrict : allowedExtensions [.strict] list = list.map plainExtension := rfl
  have hexpanded : allowedExtensions [.strict] (expandExtensions list) = expandExtensions list :=
    map_plainExtension_expandExtensions list
  refine ⟨fun s => plainExtension_mem_expandExtensions, expandExtensions_expandExtensions list,
    fun wider => expandExtensions_mono, fun scope u outcome => ?_⟩
  rw [value_run_extension scope (List.nil_subset _), value_run_extension scope (List.Subset.refl _),
    value_run_extension scope (List.Subset.refl _), hdefault, hstrict, hexpanded, ne_eq, ne_eq,
    expandExtensions_eq_nil_iff]
  refine ⟨Iff.rfl, fun h => ?_⟩
  split
  · rename_i hmissing
    rwa [if_pos hmissing] at h
  · rename_i hsent
    rw [if_neg hsent] at h
    obtain ⟨hne, ⟨ext, hext, hu⟩, houtcome⟩ := h
    obtain ⟨s, hs, rfl⟩ := List.mem_map.1 hext
    exact ⟨hne, ⟨_, plainExtension_mem_expandExtensions hs, hu⟩, houtcome⟩

theorem extension_expanded_photo :
    let scope : Scope := { collaborators := .mute }
    let photo : Upload := { name := "photo.Jpg", claimedType := "", path := "in/1", error := 0, size := 2 }
    ".JPG" ∈ [".JPG", "gif"] ∧ plainExtension ".JPG" ∈ expandExtensions [".JPG", "gif"] ∧
      [".JPG", "gif"] ⊆ ["gif", "png", ".JPG"] ∧
      expandExtensions [".JPG", "gif"] ⊆ expandExtensions ["gif", "png", ".JPG"] ∧
      (Evaluation.mk scope (extensionTest [.strict] [".JPG", "gif"]) (.upload photo)).run.value = .ok .accepted ∧
      (Evaluation.mk scope (extensionTest [] [".JPG", "gif"]) (.upload photo)).run.value = .ok .accepted := by
  intro scope photo
  obtain ⟨hentry, -, hwider, htest⟩ := extension_expanded [".JPG", "gif"]
  have hmem : ".JPG" ∈ [".JPG", "gif"] := List.mem_cons_self
  have hsubset : [".JPG", "gif"] ⊆ ["gif", "png", ".JPG"] := by simp
  have hstrict : (Evaluation.mk scope (extensionTest [.strict] [".JPG", "gif"]) (.upload photo)).run.value =
      .ok .accepted := by decide +kernel
  exact ⟨hmem, hentry _ hmem, hsubset, hwider _ hsubset, hstrict, (htest scope photo .accepted).2 hstrict⟩

end FieldRules
