import FieldRules.Engine.Validation
import FieldRules.Proofs.DocumentForm
import Mathlib.Data.List.Permutation
/-!
# Bodies of requests

The tree of a body is a map: what is no map becomes the only item of a list. One body is left out of this, a text that
holds the record of an upload (`Json.WritesUpload`). Its tree is that upload, although the tree of the record itself, as
a body, is a list of it (`Value.body_tree`). A call takes the tree of either for the same fields, so it does not matter
there whether a body comes as a text or as the value that the text holds (`Validation.validateText_eq`).
-/

namespace FieldRules

namespace Json

/-- An array or an object. -/
def isCollection : Json → Bool
  | .array _ | .object _ => true
  | _ => false

/-- The body is a text that holds the record of an upload. -/
def WritesUpload (body : Json) : Prop :=
  ∃ s entries u, body = .string s ∧ parse? s = some (.object entries) ∧ Upload.ofEntries? entries = some u

theorem writesUpload_string_iff {s : String} : WritesUpload (.string s) ↔
    ∃ entries u, parse? s = some (.object entries) ∧ Upload.ofEntries? entries = some u := by
  constructor
  · rintro ⟨_, entries, u, hs, h⟩
    cases hs
    exact ⟨entries, u, h⟩
  · rintro ⟨entries, u, h⟩
    exact ⟨s, entries, u, rfl, h⟩

theorem not_writesUpload {body : Json} (h : ∀ s, body ≠ .string s) : ¬ body.WritesUpload :=
  fun ⟨s, _, _, hs, _⟩ => h s hs

end Json

namespace Value

open Validation (fieldsOf)

variable {s : String} {v : Json}

/-- A collection as a body makes a map, in which an upload is the only item. -/
theorem ofBody_of_isCollection (hv : v.isCollection = true) : ofBody v = .map (fieldsOf (ofJson v)) := by
  cases v with
  | array items => rfl
  | object entries =>
    rw [ofBody, ofJson]
    cases Upload.ofEntries? entries <;> rfl
  | _ => cases hv

/-- A text that holds a collection makes the tree of the collection. -/
theorem ofBody_of_reads (hread : Json.parse? s = some v) (hv : v.isCollection = true) : ofBody (.string s) = ofJson v := by
  cases v with
  | array items => rw [ofBody, hread]
  | object entries => rw [ofBody, hread]
  | _ => cases hv

/-- The tree of a body is a map, unless the body is a text that holds the record of an upload. -/
theorem exists_map_iff (body : Json) : (∃ fields, ofBody body = .map fields) ↔ ¬ body.WritesUpload := by
  cases body with
  | string s =>
    rw [Json.writesUpload_string_iff, ofBody]
    cases hread : Json.parse? s with
    | none => simp [list]
    | some v =>
      cases v with
      | object entries =>
        dsimp only
        rw [ofJson]
        cases h : Upload.ofEntries? entries <;> simp [h]
      | array items => simp [ofJson, list]
      | _ => simp [list]
  | object entries =>
    exact iff_of_true ⟨_, ofBody_of_isCollection rfl⟩ (Json.not_writesUpload fun _ => Json.noConfusion)
  | _ => exact iff_of_true ⟨_, rfl⟩ (Json.not_writesUpload fun _ => Json.noConfusion)

/-- The tree of a body is a map, unless the body is a text that holds the record of an upload. With the same exception a
text that holds a collection, as its written form does, makes the same tree as the collection, and in any case one with
the same fields: the exception is the upload itself instead of the list of it. -/
theorem body_tree (body : Json) : ((∃ fields, ofBody body = .map fields) ↔ ¬ body.WritesUpload) ∧
    ∀ s, body.isCollection = true → Json.parse? s = some body →
      (ofBody (.string s) = ofBody body ↔ ¬ Json.WritesUpload (.string s)) ∧
        ofBody body = .map (fieldsOf (ofBody (.string s))) := by
  refine ⟨exists_map_iff body, fun s hbody hread => ?_⟩
  rw [← exists_map_iff, ofBody_of_isCollection hbody, ofBody_of_reads hread hbody]
  refine ⟨⟨fun h => ⟨_, h⟩, ?_⟩, rfl⟩
  rintro ⟨fields, h⟩
  rw [h]
  rfl

theorem body_tree_tags :
    let body : Json := .object [("tags", .array [.string "é", .bool true]), ("n", .number (.whole (-7)))]
    body.isCollection = true ∧ Json.parse? body.text = some body ∧ ofBody (.string body.text) = ofBody body := by
  intro body
  have hread : Json.parse? body.text = some body := by cbv
  have hmap : ∃ fields, ofBody (.string body.text) = .map fields := ⟨_, ofBody_of_reads hread rfl⟩
  obtain ⟨hiff, -⟩ := (body_tree body).2 body.text rfl hread
  exact ⟨rfl, hread, hiff.2 ((body_tree (.string body.text)).1.1 hmap)⟩

/-- A text that holds the record of an upload makes that upload, and the record as a body makes a list of it. -/
theorem upload_text_no_map :
    let u : Upload := { name := "a.txt", claimedType := "text/plain", path := "/tmp/a", error := 0, size := 3 }
    let body : Json := .object u.toEntries
    Json.parse? body.text = some body ∧ ofBody (.string body.text) = .upload u ∧ ofBody body = .list [.upload u] := by
  intro u body
  have hread : Json.parse? body.text = some body := by cbv
  have hrecord : ofJson body = .upload u := by
    rw [ofJson, Upload.ofEntries?_toEntries ⟨by decide, by decide⟩]
  refine ⟨hread, (ofBody_of_reads hread rfl).trans hrecord, ?_⟩
  rw [ofBody_of_isCollection rfl, hrecord]
  rfl

end Value

/-! ## Calls -/

namespace Validation

theorem validateTree_fieldsOf (engine : Validation) (tree : Value) (rules : Json) :
    engine.validateTree (.map (fieldsOf tree)) rules = engine.validateTree tree rules := rfl

/-- A body that is a text that holds a collection is judged as the collection, uploads among them. -/
theorem validateText_eq (engine : Validation) {s : String} {v : Json} (hread : Json.parse? s = some v)
    (hv : v.isCollection = true) (rules : Json) : engine.validateText s rules = engine.validate v rules := by
  rw [validateText, validate, validate, Value.ofBody_of_reads hread hv, Value.ofBody_of_isCollection hv,
    validateTree_fieldsOf]

end Validation

end FieldRules
