/-!
# Entries in order

Lists of key and value pairs that keep the order in which keys first came. `keys_put` says that writing
a key never moves another: the key keeps its place or goes last.
-/

namespace FieldRules.Keyed

variable {α : Type}

def keys (es : List (String × α)) : List String := es.map Prod.fst

/-- The value under a key. -/
def get? (es : List (String × α)) (k : String) : Option α :=
  (es.find? fun e => e.1 == k).map Prod.snd

def has (es : List (String × α)) (k : String) : Bool := es.any fun e => e.1 == k

/-- Writes a value under a key: in the place of the old one, or last. -/
def put (es : List (String × α)) (k : String) (v : α) : List (String × α) :=
  match es with
  | [] => [(k, v)]
  | e :: es => if e.1 == k then (k, v) :: es else e :: put es k v

/-- The entries of a list of writes, made one after another. -/
def ofList (writes : List (String × α)) : List (String × α) :=
  writes.foldl (fun es e => put es e.1 e.2) []

/-- The entries without a key. -/
def remove (es : List (String × α)) (k : String) : List (String × α) :=
  es.filter fun e => e.1 != k

/-- No key stands twice. -/
def Distinct (es : List (String × α)) : Prop := (keys es).Nodup

theorem keys_put (es : List (String × α)) (k : String) (v : α) :
    keys (put es k v) = if k ∈ keys es then keys es else keys es ++ [k] := by
  induction es with
  | nil => rfl
  | cons e es ih =>
    by_cases h : e.1 = k
    · simp [put, keys, h]
    · have hk : ¬ k = e.1 := fun hk => h hk.symm
      simp only [put, beq_iff_eq, h, if_false, keys, List.map_cons, List.mem_cons, hk, false_or] at ih ⊢
      rw [ih]
      split <;> simp [*]

theorem distinct_put {es : List (String × α)} (h : Distinct es) (k : String) (v : α) :
    Distinct (put es k v) := by
  unfold Distinct at h ⊢
  rw [keys_put]
  split
  · exact h
  · rename_i hk
    exact List.nodup_append.2 ⟨h, by simp, fun a ha b hb => by
      rw [List.mem_singleton.1 hb]
      rintro rfl
      exact hk ha⟩

end FieldRules.Keyed
