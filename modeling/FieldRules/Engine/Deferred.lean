import FieldRules.Check.Convert
import FieldRules.Keyed
/-!
# Deferred acts

Conversions and the treatment of blanks are not done while fields are checked. They are noted down by place,
in a plan of the shape of the tree, and done once all fields have passed.
-/

namespace FieldRules

/-! ## Acts -/

/-- An act on a leaf of the finished tree. -/
inductive Deferred where
  | format (target : Target)
  /-- Makes a blank leaf null. -/
  | null
  /-- Makes a blank leaf, or one that is null, the empty text. -/
  | notNull
  deriving DecidableEq, Repr

/-- Null, the text that says so, or a blank text. -/
def Value.isNullish : Value → Bool
  | .null => true
  | .text s => s == "null" || isBlankText s
  | _ => false

namespace Deferred

/-- The act of a token, if its test has one. -/
def ofToken? (t : Token) : Except Fault (Option Deferred) :=
  match t.test with
  | .format => (Target.ofToken t).map fun target => some (.format target)
  | .null => .ok (some .null)
  | .notNull => .ok (some .notNull)
  | _ => .ok none

/-- Does the act to a node. -/
def act (d : Deferred) (v : Value) : Except Fault Value :=
  match d with
  | .format target => target.convert v
  | .null => .ok (if v.isBlank then .null else v)
  | .notNull => .ok (if v.isNullish then .text notNullMark else v)

/-- Does acts one after another. A failure leaves the work of the acts before it. -/
def actAll : List Deferred → Value → Value × Option Fault
  | [], v => (v, none)
  | d :: ds, v =>
    match d.act v with
    | .ok v => actAll ds v
    | .error fault => (v, some fault)

end Deferred

/-! ## Plans -/

/-- The acts for a node of the tree: for the node itself, or for what is inside. -/
inductive Plan where
  | leaf (acts : List Deferred)
  | nested (entries : List (String × Plan))
  deriving Repr, Inhabited

namespace Plan

/-- The plans inside a node; a plan for the node itself gives way. -/
def inner : Option Plan → List (String × Plan)
  | some (.nested entries) => entries
  | _ => []

/-- Notes acts for the node at a path. The root has no acts. -/
def insert (acts : List Deferred) : (path : List String) → List (String × Plan) → List (String × Plan)
  | [], entries => entries
  | [last], entries => Keyed.put entries last (.leaf acts)
  | key :: path, entries =>
    Keyed.put entries key (.nested (insert acts path (inner (Keyed.get? entries key))))

/-- Notes acts for the node at a path, if there are any. -/
def note (entries : List (String × Plan)) (path : List String) (acts : List Deferred) :
    List (String × Plan) :=
  if acts.isEmpty then entries else insert acts path entries

/-- The path of a key below a path; the path of the root is empty. -/
def extendPath (path key : String) : String := if path.isEmpty then key else path ++ "." ++ key

mutual

/-- Does the acts of a plan to a node; the first failure ends the work. -/
def perform (path : String) : Plan → Value → Value × Option Failure
  | .leaf acts, v =>
    let (v, fault) := Deferred.actAll acts v
    (v, fault.map fun fault => { fault, field := some path })
  | .nested entries, .map fields =>
    let (fields, failure) := performAll path entries fields
    (.map fields, failure)
  | .nested _, v => (v, none)
termination_by structural p => p

/-- Does the acts of plans to the fields that they name, in the order of the plans. -/
def performAll (path : String) : List (String × Plan) → List (String × Value) →
    List (String × Value) × Option Failure
  | [], fields => (fields, none)
  | (key, plan) :: rest, fields =>
    match Keyed.get? fields key with
    | none => performAll path rest fields
    | some v =>
      let (v, failure) := perform (extendPath path key) plan v
      let fields := Keyed.put fields key v
      match failure with
      | some f => (fields, some f)
      | none => performAll path rest fields
termination_by structural ps => ps

end

/-- Does the acts of plans to a tree; what is no map has no fields. -/
def performTree (entries : List (String × Plan)) : Value → Value × Option Failure
  | .map fields =>
    let (fields, failure) := performAll "" entries fields
    (.map fields, failure)
  | v => (v, none)

end Plan

end FieldRules
