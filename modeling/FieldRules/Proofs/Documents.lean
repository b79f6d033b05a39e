import FieldRules.Proofs.Scanning
/-!
# Documents

A document is text, free of `<`, with pieces of markup between: comments, and tags in which every quote is closed.
A scan passes over each piece to its own end (`stripOnce_piece`), so that one scan leaves the text and nothing else;
and in that text there is nothing to strip any more (`strip_document`).
-/

namespace FieldRules.Markup

open FieldRules.Text

/-! ## The grammar of documents -/

/-- Every quote is closed by one of its kind, and no `>` stands outside of quotes. What stands within quotes may hold
quotes of the other kind. -/
inductive Quoted : List Char → Prop where
  | nil : Quoted []
  | plain {c : Char} {cs : List Char} (double : c ≠ '\x22') (single : c ≠ '\x27') (close : c ≠ '>') (rest : Quoted cs) :
      Quoted (c :: cs)
  | quotes {q : Char} {inner cs : List Char} (kind : q = '\x22' ∨ q = '\x27') (inside : q ∉ inner)
      (rest : Quoted cs) : Quoted (q :: (inner ++ q :: cs))

/-- A piece of markup. -/
inductive Piece where
  /-- A comment ends with the first `-->`. -/
  | comment (body : List Char) (unclosed : ¬ ['-', '-', '>'] <:+: body)
  /-- A tag ends with the first `>` that stands outside of quotes. -/
  | tag (opener : Char) (body : List Char)
      (opens : isAsciiLetter opener = true ∨ opener = '/' ∨ opener = '!' ∨ opener = '?') (quoted : Quoted body)
      (no_comment : ¬ ['<', '!', '-', '-'] <+: '<' :: opener :: body ++ ['>'])

def Piece.chars : Piece → List Char
  | .comment body _ => ['<', '!', '-', '-'] ++ body ++ ['-', '-', '>']
  | .tag opener body .. => '<' :: opener :: body ++ ['>']

/-- Text that holds no `<`. -/
abbrev Plain : Type := { cs : List Char // '<' ∉ cs }

/-- Text, and pieces of markup each with the text behind it. -/
structure Document where
  start : Plain
  rest : List (Piece × Plain)

namespace Document

def chars (d : Document) : List Char := d.start.val ++ d.rest.flatMap fun (piece, text) => piece.chars ++ text.val

/-- The text of a document without its markup. -/
def texts (d : Document) : List Char := d.start.val ++ d.rest.flatMap fun (_, text) => text.val

end Document

/-! ## Where a piece ends -/

/-- A comment whose body does not hold its end is not ended by what stands across the two. -/
theorem afterComment_append {body : List Char} (h : ¬ ['-', '-', '>'] <:+: body) (rest : List Char) :
    afterComment (body ++ '-' :: '-' :: '>' :: rest) = rest := by
  induction body with
  | nil => rw [List.nil_append, afterComment]
  | cons c body ih =>
    have hbody : ¬ ['-', '-', '>'] <:+: body := fun hinner => h (hinner.trans (List.suffix_cons c body).isInfix)
    have hhead : ¬ ['-', '-', '>'] <+: c :: (body ++ '-' :: '-' :: '>' :: rest) := by
      intro hbegin
      rcases body with _ | ⟨d, _ | ⟨e, body⟩⟩
      · simp at hbegin
      · simp at hbegin
      · obtain ⟨rfl, rfl, rfl⟩ : '-' = c ∧ '-' = d ∧ '>' = e := by simpa using hbegin
        exact h (List.prefix_append ['-', '-', '>'] body).isInfix
    rw [List.cons_append, afterComment_cons hhead, ih hbody]

theorem afterTag_inside {q : Char} {inner : List Char} (h : q ∉ inner) (rest : List Char) :
    afterTag (some q) (inner ++ q :: rest) = afterTag none rest := by
  induction inner with
  | nil => simp [afterTag]
  | cons c inner ih =>
    obtain ⟨hc, hinner⟩ := not_or.1 (mt List.mem_cons.2 h)
    have hother : (c == q) = false := beq_false_of_ne (Ne.symm hc)
    rw [List.cons_append, afterTag]
    simp only [hother, Bool.false_eq_true, if_false]
    exact ih hinner

/-- The first `>` outside of quotes ends a tag. -/
theorem Quoted.afterTag {body : List Char} (h : Quoted body) (rest : List Char) :
    afterTag none (body ++ '>' :: rest) = rest := by
  induction h with
  | nil => simp [Markup.afterTag]
  | plain double single close _ ih =>
    rw [List.cons_append, Markup.afterTag]
    simpa [double, single, close] using ih
  | @quotes q inner cs kind inside _ ih =>
    have hclose : (q == '>') = false := by rcases kind with rfl | rfl <;> rfl
    have hquote : (q == '\x22' || q == '\x27') = true := by rcases kind with rfl | rfl <;> rfl
    rw [List.cons_append, Markup.afterTag]
    simp only [hclose, hquote, Bool.false_eq_true, if_false, if_true]
    rw [List.append_assoc, List.cons_append, afterTag_inside inside, ih]

/-! ## Scanning a document -/

theorem stripOnce_append_of_not_mem {text : List Char} (h : '<' ∉ text) (rest : List Char) :
    stripOnce (text ++ rest) = text ++ stripOnce rest := by
  induction text with
  | nil => rfl
  | cons c text ih =>
    obtain ⟨hc, htext⟩ := not_or.1 (mt List.mem_cons.2 h)
    rw [List.cons_append, stripOnce_cons, if_neg fun hopen => hc hopen.1.symm, ih htext, List.cons_append]

/-- A scan goes on behind a piece of markup. -/
theorem stripOnce_piece (piece : Piece) (rest : List Char) : stripOnce (piece.chars ++ rest) = stripOnce rest := by
  cases piece with
  | comment body unclosed =>
    have hchars : (Piece.comment body unclosed).chars ++ rest =
        '<' :: '!' :: '-' :: '-' :: (body ++ '-' :: '-' :: '>' :: rest) := by
      simp [Piece.chars]
    have hcomment : ['!', '-', '-'] <+: '!' :: '-' :: '-' :: (body ++ '-' :: '-' :: '>' :: rest) :=
      List.prefix_append ['!', '-', '-'] _
    rw [hchars, stripOnce_cons, if_pos ⟨rfl, rfl⟩, if_pos hcomment]
    exact congrArg stripOnce (afterComment_append unclosed rest)
  | tag opener body opens quoted no_comment =>
    have hopens : opensMarkup opener = true := opensMarkup_iff.2 opens
    -- The sign behind the `<` is none that a tag heeds.
    have hopener : Quoted (opener :: body) := by
      refine .plain ?_ ?_ ?_ quoted <;> rintro rfl <;> exact absurd hopens (by decide)
    have hcomment : ¬ ['!', '-', '-'] <+: opener :: body ++ '>' :: rest := by
      intro hbegin
      apply no_comment
      rcases body with _ | ⟨c, _ | ⟨d, body⟩⟩
      · simp at hbegin
      · simp at hbegin
      · simpa using hbegin
    have hchars : (Piece.tag opener body opens quoted no_comment).chars ++ rest =
        '<' :: (opener :: body ++ '>' :: rest) := by
      simp [Piece.chars]
    rw [hchars, stripOnce_cons, if_pos ⟨rfl, by simpa using hopens⟩, if_neg hcomment, hopener.afterTag]

theorem stripOnce_pieces (pieces : List (Piece × Plain)) :
    stripOnce (pieces.flatMap fun (piece, text) => piece.chars ++ text.val) =
      pieces.flatMap fun (_, text) => text.val := by
  induction pieces with
  | nil => rw [List.flatMap_nil, List.flatMap_nil, stripOnce]
  | cons entry pieces ih =>
    obtain ⟨piece, text⟩ := entry
    simp only [List.flatMap_cons, List.append_assoc]
    rw [stripOnce_piece, stripOnce_append_of_not_mem text.property, ih]

theorem Document.not_mem_texts (d : Document) : '<' ∉ d.texts := by
  intro h
  rcases List.mem_append.1 h with hstart | hrest
  · exact d.start.property hstart
  · obtain ⟨⟨_, text⟩, -, htext⟩ := List.mem_flatMap.1 hrest
    exact text.property htext

/-- Of a document one scan deletes its markup and nothing else, and stripping leaves it at that. -/
theorem strip_document (d : Document) :
    stripOnce d.chars = d.texts ∧ strip (String.ofList d.chars) = String.ofList d.texts := by
  have honce : stripOnce d.chars = d.texts := by
    rw [Document.chars, stripOnce_append_of_not_mem d.start.property, stripOnce_pieces]
    rfl
  have hchars : stripChars d.chars = d.texts := by
    by_cases hsame : stripOnce d.chars = d.chars
    · rw [stripChars, if_pos hsame, ← honce, hsame]
    · rw [stripChars, if_neg hsame, honce, stripChars_of_not_mem d.not_mem_texts]
  refine ⟨honce, ?_⟩
  rw [strip, String.toList_ofList, hchars]

/-- A `>` within quotes or in a comment closes nothing. -/
example : strip "<a title='1 > 0'>Link</a><!-- > <b> --> 0 < 1" = "Link 0 < 1" := by decide +kernel

end FieldRules.Markup
