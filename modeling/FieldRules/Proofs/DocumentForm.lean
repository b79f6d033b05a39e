import FieldRules.Proofs.Entries
import FieldRules.Proofs.Numerals
/-!
# Trees and their document form

The tree of a document is written as a document again, with a text in the place of every scalar and an object in the
place of every array (`Json.normal`). That document has the same tree (`Value.readBack_ofJson`). What could come between
are the records of uploads, which are told by their keys and by what stands under them. The keys stay, and a list has
none of them; a text stays a text; and a number that has become a text is read as the same integer, or as none as before
(`Upload.intField?_normal`). So an object that was no upload does not become one (`Upload.ofEntries?_normalEntries`), and
an upload is written as its record (`Upload.ofEntries?_toEntries`).
-/

namespace FieldRules

open FieldRules.Text

/-! ## Maps of documents and trees -/

namespace Value

theorem entriesToJson_eq (entries : List (String × Value)) :
    entriesToJson entries = entries.map fun e => (e.1, e.2.toJson) := by
  induction entries with
  | nil => rfl
  | cons e es ih => rw [entriesToJson, ih, List.map_cons]

theorem entriesOfJson_eq (entries : List (String × Json)) :
    entriesOfJson entries = entries.map fun e => (e.1, ofJson e.2) := by
  induction entries with
  | nil => rfl
  | cons e es ih => rw [entriesOfJson, ih, List.map_cons]

theorem mem_of_mem_numbered {n : Nat} {vs : List Value} {e : String × Value} (h : e ∈ numbered n vs) :
    (∃ k, e.1 = showNat k) ∧ e.2 ∈ vs := by
  induction vs generalizing n with
  | nil => cases h
  | cons v vs ih =>
    rcases List.mem_cons.1 h with rfl | h
    · exact ⟨⟨n, rfl⟩, .head _⟩
    · exact ⟨(ih h).1, .tail _ (ih h).2⟩

end Value

namespace Json

/-- The document form of the tree of a document. -/
def normal (v : Json) : Json := (Value.ofJson v).toJson

def normalEntries (entries : List (String × Json)) : List (String × Json) := entries.map fun e => (e.1, e.2.normal)

theorem keys_normalEntries (entries : List (String × Json)) :
    Keyed.keys (normalEntries entries) = Keyed.keys entries := by
  simp [normalEntries, Keyed.keys, Function.comp_def]

theorem get?_normalEntries (entries : List (String × Json)) (k : String) :
    Keyed.get? (normalEntries entries) k = (Keyed.get? entries k).map normal :=
  Keyed.get?_map normal entries k

end Json

/-! ## Integers in texts -/

namespace Text

/-- A text with a character that stands in no numeral is no integer. -/
theorem int64?_of_mem {s : String} {c : Char} (hc : c ∈ s.toList) (hminus : c ≠ '-') (hplus : c ≠ '+')
    (hdigit : isAsciiDigit c = false) : int64? s = none := by
  have hbody : c ∈ (Decimal.sign s.toList).2 := by
    unfold Decimal.sign
    split <;> simp_all
  have hall : (Decimal.sign s.toList).2.all isAsciiDigit = false := List.all_eq_false.2 ⟨c, hbody, by simp [hdigit]⟩
  rw [int64?_eq, digits?, hall]
  simp

theorem inRange64_of_int64? {s : String} {n : Int} (h : int64? s = some n) : InRange64 n := by
  rw [int64?_eq, Option.map_eq_some_iff] at h
  obtain ⟨m, hm, rfl⟩ := h
  simpa using (Option.filter_eq_some_iff.1 hm).2

theorem int64?_showInt (n : Int) : int64? (trim (showInt n)) = if InRange64 n then some n else none := by
  rw [← Numeral.text_ofInt, Numeral.trim_text, Numeral.int64?_text, Numeral.value_ofInt]

end Text

/-- A number that keeps its point is written with a point or an exponent. -/
theorem Binary64.point_or_exponent_mem (style : Style) (h : style.keepPoint = true) (negative : Bool) (mantissa : Nat)
    (exponent : Int) : '.' ∈ (finiteText style negative mantissa exponent).toList ∨
      'e' ∈ (finiteText style negative mantissa exponent).toList := by
  have hpositional : ∀ ds p, '.' ∈ positionalText true ds p := by
    intro ds p
    unfold positionalText
    split <;> simp
  have hscientific : ∀ ds e, 'e' ∈ scientificText ds e := fun ds e => by simp [scientificText]
  have hsigned : ∀ body : List Char, '.' ∈ body ∨ 'e' ∈ body →
      '.' ∈ (if negative then '-' :: body else body) ∨ 'e' ∈ (if negative then '-' :: body else body) := by
    intro body hbody
    split
    · exact hbody.imp (.tail _) (.tail _)
    · exact hbody
  unfold finiteText
  generalize (if mantissa = 0 then (0, 0) else shortest style.tie mantissa exponent) = decimal
  obtain ⟨n, p⟩ := decimal
  dsimp only
  rw [String.toList_ofList, h]
  apply hsigned
  split
  · exact .inl (hpositional _ _)
  · exact .inr (hscientific _ _)

/-- What is no integer as a number is none as a text either. -/
theorem Text.int64?_floatText (x : Binary64) : int64? (trim (Json.floatText x)) = none := by
  cases x with
  | finite negative mantissa exponent =>
    have hmem : ∀ c, c ∈ (Json.floatText (.finite negative mantissa exponent)).toList → isBlank c = false →
        c ∈ (trim (Json.floatText (.finite negative mantissa exponent))).toList := fun c hc hblank => by
      rw [toList_trim]
      exact mem_trimChars_of_not_isBlank hblank hc
    rcases Binary64.point_or_exponent_mem Json.floatStyle rfl negative mantissa exponent with hc | hc
    · exact int64?_of_mem (hmem _ hc (by decide)) (by decide) (by decide) (by decide)
    · exact int64?_of_mem (hmem _ hc (by decide)) (by decide) (by decide) (by decide)
  | nan => decide
  | infinite negative => decide +revert

/-! ## The records of uploads -/

namespace Upload

/-- The keys are those of an upload, with or without the further one. -/
def AreKeys (ks : List String) : Prop :=
  ks.length = keys.length + (if optionalKey ∈ ks then 1 else 0) ∧ ∀ k ∈ keys, k ∈ ks

instance (ks : List String) : Decidable (AreKeys ks) := inferInstanceAs (Decidable (_ ∧ _))

/-- An object is the record of an upload if it has its keys, with texts and integers of 64 bits under them. -/
theorem ofEntries?_eq_some_iff {entries : List (String × Json)} {u : Upload} : ofEntries? entries = some u ↔
    AreKeys (Keyed.keys entries) ∧
      (Keyed.get? entries "name").bind textField? = some u.name ∧
      (Keyed.get? entries "type").bind textField? = some u.claimedType ∧
      (Keyed.get? entries "tmp_name").bind textField? = some u.path ∧
      (Keyed.get? entries "error").bind intField? = some u.error ∧
      (Keyed.get? entries "size").bind intField? = some (u.size : Int) := by
  have hshape : (entries.length ≠ keys.length + (if Keyed.has entries optionalKey then 1 else 0) ∨
      !keys.all (Keyed.has entries)) ↔ ¬ AreKeys (Keyed.keys entries) := by
    have hlength : entries.length = (Keyed.keys entries).length := by simp [Keyed.keys]
    rw [AreKeys, not_and_or]
    simp [hlength, Keyed.has_iff]
  unfold ofEntries?
  dsimp only
  by_cases hkeys : AreKeys (Keyed.keys entries)
  · rw [if_neg fun h => hshape.1 h hkeys]
    generalize (Keyed.get? entries "name").bind textField? = name
    generalize (Keyed.get? entries "type").bind textField? = claimedType
    generalize (Keyed.get? entries "tmp_name").bind textField? = path
    generalize (Keyed.get? entries "error").bind intField? = error
    generalize (Keyed.get? entries "size").bind intField? = size
    simp only [Option.bind_eq_bind, Option.bind_eq_some_iff, hkeys, true_and]
    constructor
    · rintro ⟨_, rfl, _, rfl, _, rfl, _, rfl, n, rfl, h⟩
      split at h
      · rename_i hn
        cases h
        exact ⟨rfl, rfl, rfl, rfl, congrArg some (Int.toNat_of_nonneg hn).symm⟩
      · cases h
    · rintro ⟨rfl, rfl, rfl, rfl, rfl⟩
      exact ⟨_, rfl, _, rfl, _, rfl, _, rfl, _, rfl, if_pos (Int.natCast_nonneg _)⟩
  · rw [if_pos (hshape.2 hkeys)]
    simp [hkeys]

theorem textField?_normal (v : Json) : (textField? v.normal).isSome = (textField? v).isSome := by
  cases v with
  | object entries =>
    unfold Json.normal Value.ofJson
    cases ofEntries? entries <;> rfl
  | _ => rfl

/-- A number that has become a text is the same integer if it has 64 bits, and none otherwise. -/
theorem intField?_normal (v : Json) : intField? v.normal = (intField? v).filter fun n => InRange64 n := by
  cases v with
  | null => decide
  | bool b => decide +revert
  | number n =>
    cases n with
    | whole n =>
      have hnormal : intField? (Json.number (.whole n)).normal = int64? (trim (showInt n)) := rfl
      rw [hnormal, int64?_showInt, intField?]
      by_cases hn : n < bound63
      · rw [if_pos hn]
        by_cases hin : InRange64 n
        · rw [if_pos hin, Option.filter_some_pos (by simpa using hin)]
        · rw [if_neg hin, Option.filter_some_neg (by simpa using hin)]
      · have hout : ¬ InRange64 n := fun h => hn h.2
        simp [hn, hout]
    | float x => exact int64?_floatText x
  | string s =>
    have hnormal : intField? (Json.string s).normal = int64? (trim s) := rfl
    rw [hnormal, intField?]
    cases h : int64? (trim s) with
    | none => rfl
    | some n => rw [Option.filter_some_pos (by simpa using inRange64_of_int64? h)]
  | array items => rfl
  | object entries =>
    unfold Json.normal Value.ofJson
    cases ofEntries? entries <;> rfl

theorem lt_of_intField? {v : Json} {n : Int} (h : intField? v = some n) : n < bound63 := by
  unfold intField? at h
  split at h
  · split at h
    · cases h
      assumption
    · cases h
  · exact (inRange64_of_int64? h).2
  · cases h

/-- An object that is no upload does not become one. -/
theorem ofEntries?_normalEntries {entries : List (String × Json)} (h : ofEntries? entries = none) :
    ofEntries? (Json.normalEntries entries) = none := by
  rw [Option.eq_none_iff_forall_ne_some] at h ⊢
  intro u hu
  have htext : ∀ {k s}, (Keyed.get? (Json.normalEntries entries) k).bind textField? = some s →
      ∃ s', (Keyed.get? entries k).bind textField? = some s' := by
    intro k s hs
    rw [Json.get?_normalEntries] at hs
    cases hv : Keyed.get? entries k with
    | none => simp [hv] at hs
    | some v =>
      have hsome : (textField? v).isSome = true := by
        rw [← textField?_normal, Option.isSome_iff_exists]
        exact ⟨s, by simpa [hv] using hs⟩
      exact Option.isSome_iff_exists.1 hsome
  have hint : ∀ {k n}, (Keyed.get? (Json.normalEntries entries) k).bind intField? = some n →
      (Keyed.get? entries k).bind intField? = some n := by
    intro k n hn
    rw [Json.get?_normalEntries] at hn
    cases hv : Keyed.get? entries k with
    | none => simp [hv] at hn
    | some v =>
      have hfilter : (intField? v).filter (fun n => InRange64 n) = some n := by
        rw [← intField?_normal]
        simpa [hv] using hn
      exact (Option.filter_eq_some_iff.1 hfilter).1
  rw [ofEntries?_eq_some_iff, Json.keys_normalEntries] at hu
  obtain ⟨hkeys, hname, htype, hpath, herror, hsize⟩ := hu
  obtain ⟨name, hname⟩ := htext hname
  obtain ⟨claimedType, htype⟩ := htext htype
  obtain ⟨path, hpath⟩ := htext hpath
  exact h { u with name, claimedType, path }
    (ofEntries?_eq_some_iff.2 ⟨hkeys, hname, htype, hpath, hint herror, hint hsize⟩)

/-- The integers of an upload are in the range of those that are read. -/
structure InRange (u : Upload) : Prop where
  error : u.error < bound63
  size : (u.size : Int) < bound63

theorem inRange_of_ofEntries? {entries : List (String × Json)} {u : Upload} (h : ofEntries? entries = some u) :
    u.InRange := by
  obtain ⟨-, -, -, -, herror, hsize⟩ := ofEntries?_eq_some_iff.1 h
  obtain ⟨_, -, herror⟩ := Option.bind_eq_some_iff.1 herror
  obtain ⟨_, -, hsize⟩ := Option.bind_eq_some_iff.1 hsize
  exact ⟨lt_of_intField? herror, lt_of_intField? hsize⟩

/-- The record of an upload describes it. -/
theorem ofEntries?_toEntries {u : Upload} (h : u.InRange) : ofEntries? u.toEntries = some u := by
  have hint : ∀ {n : Int}, n < bound63 → intField? (.number (.whole n)) = some n := fun hn => by
    rw [intField?, if_pos hn]
  have hkeys : AreKeys (Keyed.keys u.toEntries) := show AreKeys keys by decide
  have hsize : Keyed.get? u.toEntries "size" = some (.number (.whole u.size)) := by simp [Keyed.get?, toEntries]
  rw [ofEntries?_eq_some_iff]
  refine ⟨hkeys, rfl, rfl, rfl, hint h.error, ?_⟩
  rw [hsize, Option.bind_some, hint h.size]

end Upload

/-! ## The tree of the document form -/

namespace Value

/-- The tree is that of its document form. -/
def ReadBack (v : Value) : Prop := ofJson v.toJson = v

theorem ReadBack.upload {u : Upload} (h : u.InRange) : (Value.upload u).ReadBack := by
  rw [ReadBack, toJson, ofJson, Upload.ofEntries?_toEntries h]

theorem ReadBack.map {entries : List (String × Value)} (hentries : ∀ e ∈ entries, e.2.ReadBack)
    (hnone : Upload.ofEntries? (entriesToJson entries) = none) : (Value.map entries).ReadBack := by
  have hback : entriesOfJson (entriesToJson entries) = entries := by
    rw [entriesToJson_eq, entriesOfJson_eq, List.map_map]
    calc entries.map (fun e => (e.1, ofJson e.2.toJson)) = entries.map id :=
          List.map_congr_left fun e he => Prod.ext rfl (hentries e he)
      _ = entries := List.map_id _
  rw [ReadBack, toJson, ofJson, hnone, hback]

theorem entriesToJson_entriesOfJson (entries : List (String × Json)) :
    entriesToJson (entriesOfJson entries) = Json.normalEntries entries := by
  rw [entriesToJson_eq, entriesOfJson_eq, List.map_map]
  rfl

/-- A list is no upload, since its keys are numbers. -/
theorem ofEntries?_numbered (n : Nat) (vs : List Value) :
    Upload.ofEntries? (entriesToJson (numbered n vs)) = none := by
  rw [Option.eq_none_iff_forall_ne_some]
  intro u hu
  obtain ⟨⟨-, hkeys⟩, -⟩ := Upload.ofEntries?_eq_some_iff.1 hu
  obtain ⟨v, hv⟩ := Keyed.mem_keys.1 (hkeys "name" (by decide))
  rw [entriesToJson_eq] at hv
  obtain ⟨e, he, heq⟩ := List.mem_map.1 hv
  obtain ⟨⟨k, hk⟩, -⟩ := mem_of_mem_numbered he
  have hname : showNat k = "name" := hk.symm.trans (congrArg Prod.fst heq)
  have hdigit : isAsciiDigit 'n' = true := isAsciiDigit_of_mem_showNat (n := k) (by rw [hname]; decide)
  cases hdigit

mutual

/-- The tree of a document is that of its document form. -/
theorem readBack_ofJson : ∀ v : Json, (ofJson v).ReadBack
  | .null | .bool _ | .number _ | .string _ => rfl
  | .array items => by
    refine .map (fun e he => ?_) (ofEntries?_numbered 0 _)
    exact readBack_itemsOfJson items e.2 (mem_of_mem_numbered he).2
  | .object entries => by
    rw [ofJson]
    cases h : Upload.ofEntries? entries with
    | some u => exact .upload (Upload.inRange_of_ofEntries? h)
    | none =>
      refine .map (readBack_entriesOfJson entries) ?_
      rw [entriesToJson_entriesOfJson]
      exact Upload.ofEntries?_normalEntries h
termination_by structural v => v

theorem readBack_itemsOfJson : ∀ items : List Json, ∀ v ∈ itemsOfJson items, v.ReadBack
  | [] => List.forall_mem_nil _
  | v :: vs => List.forall_mem_cons.2 ⟨readBack_ofJson v, readBack_itemsOfJson vs⟩
termination_by structural items => items

theorem readBack_entriesOfJson : ∀ entries : List (String × Json), ∀ e ∈ entriesOfJson entries, e.2.ReadBack
  | [] => List.forall_mem_nil _
  | (_, v) :: es => List.forall_mem_cons.2 ⟨readBack_ofJson v, readBack_entriesOfJson es⟩
termination_by structural entries => entries

end

/-- The tree of a document is the same after it was written as a document and read again, uploads in it included. And an
object is read as an upload the second time just if it was the first time, and as the same one. -/
theorem document_form_read_back (v : Json) : ofJson (ofJson v).toJson = ofJson v ∧
    ∀ entries, v = .object entries → ∃ again, (ofJson v).toJson = .object again ∧
      Upload.ofEntries? again = Upload.ofEntries? entries := by
  refine ⟨readBack_ofJson v, ?_⟩
  rintro entries rfl
  rw [ofJson]
  cases h : Upload.ofEntries? entries with
  | some u => exact ⟨u.toEntries, rfl, Upload.ofEntries?_toEntries (Upload.inRange_of_ofEntries? h)⟩
  | none =>
    refine ⟨Json.normalEntries entries, ?_, Upload.ofEntries?_normalEntries h⟩
    rw [toJson, entriesToJson_entriesOfJson]

end Value

end FieldRules
