import FieldRules.MediaType
/-!
# Types of cut texts

Only the first bytes of a file are looked at, and they may end inside a character. Reading the bytes of a text gives its
characters (`decode_encoded`), and reading the first of them those characters that are all there (`decode_take_encoded`).
So the beginning of a text is the beginning of a text to the eye that tells types, wherever it ends (`sniffText_take`).
-/

namespace FieldRules

namespace Text.Utf8

/-! ## The bytes of a character -/

theorem opening?_two {n : Nat} (hlow : 2 ≤ n) (hhigh : n < 32) :
    opening? (n + 192) = some { missing := 1, bits := n } := by
  have hbits : (n + 192) % 32 = n := by omega
  rw [opening?, if_neg (by omega), if_neg (by omega), if_pos (by omega), hbits]

theorem opening?_three {n : Nat} (h : n < 16) : opening? (n + 224) = some
    { missing := 2, low := if n = 0 then 0xA0 else 0x80, high := if n = 13 then 0x9F else 0xBF, bits := n } := by
  have hfirst : (n + 224 = 0xE0) = (n = 0) := by simp
  have hlast : (n + 224 = 0xED) = (n = 13) := by simp
  have hbits : (n + 224) % 16 = n := by omega
  rw [opening?, if_neg (by omega), if_neg (by omega), if_neg (by omega), if_pos (by omega)]
  simp only [hfirst, hlast, hbits]

theorem opening?_four {n : Nat} (h : n < 5) : opening? (n + 240) = some
    { missing := 3, low := if n = 0 then 0x90 else 0x80, high := if n = 4 then 0x8F else 0xBF, bits := n } := by
  have hfirst : (n + 240 = 0xF0) = (n = 0) := by simp
  have hlast : (n + 240 = 0xF4) = (n = 4) := by simp
  have hbits : (n + 240) % 8 = n := by omega
  rw [opening?, if_neg (by omega), if_neg (by omega), if_neg (by omega), if_neg (by omega), if_pos (by omega)]
  simp only [hfirst, hlast, hbits]

theorem decodeFrom_eq_decode {p : Pending} (hp : p.missing = 0) (bytes : List UInt8) :
    decodeFrom p bytes = decode bytes := by
  cases bytes with
  | nil => simp [decode, decodeFrom, hp]
  | cons b bytes => simp [decode, decodeFrom, Pending.step?, hp]

theorem decodeFrom_cons {p q : Pending} {b : UInt8} (h : p.step? b.toNat = some q) (bytes : List UInt8) :
    decodeFrom p (b :: bytes) = (q.character ++ (decodeFrom q bytes).1, (decodeFrom q bytes).2) := by
  simp only [decodeFrom, h]

section
variable {p : Pending} {b : UInt8}

theorem step?_missing {n : Nat} (hp : p.missing = n + 1) (hb : p.low ≤ b.toNat ∧ b.toNat ≤ p.high) :
    p.step? b.toNat = some { missing := n, bits := 64 * p.bits + b.toNat % 64 } := by
  simp only [Pending.step?, hp, hb, and_self, if_true]

/-- A byte behind which more are missing still. -/
theorem decodeFrom_more {n : Nat} (hp : p.missing = n + 2) (hb : p.low ≤ b.toNat ∧ b.toNat ≤ p.high)
    (bytes : List UInt8) :
    decodeFrom p (b :: bytes) = decodeFrom { missing := n + 1, bits := 64 * p.bits + b.toNat % 64 } bytes := by
  rw [decodeFrom_cons (step?_missing hp hb)]
  rfl

/-- The last byte of a character. -/
theorem decodeFrom_last (hp : p.missing = 1) (hb : p.low ≤ b.toNat ∧ b.toNat ≤ p.high) (bytes : List UInt8) :
    decodeFrom p (b :: bytes) =
      (Char.ofNat (64 * p.bits + b.toNat % 64) :: (decode bytes).1, (decode bytes).2) := by
  rw [decodeFrom_cons (step?_missing hp hb), decodeFrom_eq_decode rfl]
  rfl

/-- Fewer bytes than are missing complete no character. -/
theorem decodeFrom_of_length_lt {bytes : List UInt8} (h : bytes.length < p.missing) : (decodeFrom p bytes).1 = [] := by
  induction bytes generalizing p with
  | nil => rfl
  | cons b bytes ih =>
    obtain ⟨n, hn⟩ : ∃ n, p.missing = n + 1 := Nat.exists_eq_succ_of_ne_zero (by omega)
    have hlength : bytes.length < n := by simpa [hn] using h
    by_cases hb : p.low ≤ b.toNat ∧ b.toNat ≤ p.high
    · rw [decodeFrom_cons (step?_missing hn hb), ih hlength, Pending.character, if_neg (by simp only; omega)]
      rfl
    · have hstep : p.step? b.toNat = none := by simp only [Pending.step?, hn, hb, if_false]
      simp [decodeFrom, hstep]

end

/-- The bytes of a character: the first opens it, and the others complete it. -/
structure Spells (c : Char) (first : UInt8) (others : List UInt8) (p : Pending) : Prop where
  opens : opening? first.toNat = some p
  missing : p.missing = others.length
  completes : ∀ bytes, (p.character ++ (decodeFrom p (others ++ bytes)).1, (decodeFrom p (others ++ bytes)).2) =
    (c :: (decode bytes).1, (decode bytes).2)

theorem exists_spells (c : Char) :
    ∃ first others p, String.utf8EncodeChar c = first :: others ∧ Spells c first others p := by
  have hscalar : c.toNat < 0xD800 ∨ 0xDFFF < c.toNat ∧ c.toNat < 0x110000 := c.valid
  have hbyte : ∀ {n : Nat}, n < 256 → (UInt8.ofNat n).toNat = n := UInt8.toNat_ofNat_of_lt
  have hother : ∀ n, (UInt8.ofNat (n % 64 + 128)).toNat = n % 64 + 128 := fun n => hbyte (by omega)
  have hbounds : ∀ n, 0x80 ≤ (UInt8.ofNat (n % 64 + 128)).toNat ∧ (UInt8.ofNat (n % 64 + 128)).toNat ≤ 0xBF :=
    fun n => by rw [hother]; omega
  have hc : c.val.toNat = c.toNat := rfl
  fun_cases String.utf8EncodeChar c with
  | case1 v h =>
    refine ⟨_, _, { bits := v }, rfl, ?_, rfl, fun bytes => ?_⟩
    · rw [hbyte (by omega), opening?, if_pos (by omega)]
    · simp [decodeFrom_eq_decode, Pending.character, v, hc]
  | case2 v h1 h2 =>
    have hbits : 64 * (v / 64 % 32) + (v % 64 + 128) % 64 = c.toNat := by omega
    refine ⟨_, _, _, rfl, by rw [hbyte (by omega)]; exact opening?_two (by omega) (by omega), rfl, fun bytes => ?_⟩
    rw [List.singleton_append, decodeFrom_last rfl (hbounds v), hother, hbits, Char.ofNat_toNat]
    rfl
  | case3 v h1 h2 h3 =>
    have hbits : 64 * (64 * (v / 4096 % 16) + (v / 64 % 64 + 128) % 64) + (v % 64 + 128) % 64 = c.toNat := by omega
    refine ⟨_, _, _, rfl, by rw [hbyte (by omega)]; exact opening?_three (by omega), rfl, fun bytes => ?_⟩
    rw [List.cons_append, decodeFrom_more rfl, hother, List.singleton_append, decodeFrom_last rfl (hbounds v), hother,
      hbits, Char.ofNat_toNat]
    · rfl
    · -- The second byte says that there is no shorter form, and that the character is no surrogate.
      rw [hother]
      constructor <;> (simp only; split) <;> omega
  | case4 v h1 h2 h3 =>
    have hbits : 64 * (64 * (64 * (v / 262144 % 8) + (v / 4096 % 64 + 128) % 64) + (v / 64 % 64 + 128) % 64) +
        (v % 64 + 128) % 64 = c.toNat := by omega
    refine ⟨_, _, _, rfl, by rw [hbyte (by omega)]; exact opening?_four (by omega), rfl, fun bytes => ?_⟩
    rw [List.cons_append, decodeFrom_more rfl, hother, List.cons_append, decodeFrom_more rfl (hbounds _), hother,
      List.singleton_append, decodeFrom_last rfl (hbounds v), hother, hbits, Char.ofNat_toNat]
    · rfl
    · rw [hother]
      constructor <;> (simp only; split) <;> omega

/-! ## The bytes of a text -/

theorem decode_utf8EncodeChar_append (c : Char) (bytes : List UInt8) :
    decode (String.utf8EncodeChar c ++ bytes) = (c :: (decode bytes).1, (decode bytes).2) := by
  obtain ⟨first, others, p, hc, hspells⟩ := exists_spells c
  have hstep : Pending.step? {} first.toNat = some p := hspells.opens
  rw [hc, List.cons_append, decode, decodeFrom_cons hstep, hspells.completes]

/-- Bytes that end inside their first character show none. -/
theorem decode_take_utf8EncodeChar {c : Char} {n : Nat} (hn : n < c.utf8Size) :
    (decode ((String.utf8EncodeChar c).take n)).1 = [] := by
  obtain ⟨first, others, p, hc, hspells⟩ := exists_spells c
  have hlength : c.utf8Size = others.length + 1 := by rw [← String.length_utf8EncodeChar, hc, List.length_cons]
  cases n with
  | zero => rfl
  | succ n =>
    have hstep : Pending.step? {} first.toNat = some p := hspells.opens
    have hmissing := hspells.missing
    have hshort : (others.take n).length < p.missing := by
      rw [List.length_take]
      omega
    rw [hc, List.take_succ_cons, decode, decodeFrom_cons hstep, decodeFrom_of_length_lt hshort, Pending.character,
      if_neg (by omega), List.append_nil]

/-- Reading is the inverse of writing. -/
theorem decode_encoded (cs : List Char) : decode (cs.flatMap String.utf8EncodeChar) = (cs, .complete) := by
  induction cs with
  | nil => rfl
  | cons c cs ih => rw [List.flatMap_cons, decode_utf8EncodeChar_append, ih]

/-- The characters of a text whose bytes are all among the first `n`. -/
def wholeIn (n : Nat) : List Char → List Char
  | [] => []
  | c :: cs => if c.utf8Size ≤ n then c :: wholeIn (n - c.utf8Size) cs else []

/-- The first bytes of a text are read as the characters that are all there. -/
theorem decode_take_encoded (n : Nat) (cs : List Char) :
    (decode ((cs.flatMap String.utf8EncodeChar).take n)).1 = wholeIn n cs := by
  induction cs generalizing n with
  | nil => rw [List.flatMap_nil, List.take_nil]; rfl
  | cons c cs ih =>
    have hlength := String.length_utf8EncodeChar c
    rw [List.flatMap_cons, List.take_append, wholeIn]
    split
    · rename_i hwhole
      rw [List.take_of_length_le (by omega), decode_utf8EncodeChar_append, hlength, ih]
    · rename_i hcut
      rw [Nat.sub_eq_zero_of_le (by omega), List.take_zero, List.append_nil, decode_take_utf8EncodeChar (by omega)]

end Text.Utf8

/-! ## The type of a text -/

namespace MediaType

open Text

theorem ofText_ne_unknown (cs : List Char) : ofText cs ≠ unknown := by
  unfold ofText
  simp only
  split
  · decide
  · split
    · decide
    · split <;> decide

theorem sniffText_of_ne_invalid {bytes : List UInt8} (hzero : 0 ∉ bytes) (h : (Utf8.decode bytes).2 ≠ .invalid) :
    sniffText bytes = ofText (Utf8.decode bytes).1 := by
  unfold sniffText
  rw [if_neg (by simpa using hzero)]
  split
  · rename_i hdecode
    rw [hdecode] at h
    exact absurd rfl h
  · rename_i hdecode
    rw [hdecode]

/-- However many bytes of a text without a zero byte are looked at, they are those of a text: their type is that of the
characters that are all there. -/
theorem sniffText_take {bytes : List UInt8} (hvalid : bytes.toByteArray.IsValidUTF8) (hzero : 0 ∉ bytes) (n : Nat) :
    sniffText (bytes.take n) ≠ unknown ∧ ∃ cs : List Char, bytes.toByteArray = cs.utf8Encode ∧
      sniffText (bytes.take n) = ofText (Utf8.wholeIn n cs) := by
  obtain ⟨cs, hcs⟩ := hvalid
  have hbytes : bytes = cs.flatMap String.utf8EncodeChar := by
    simpa [List.utf8Encode] using congrArg (fun b => b.data.toList) hcs
  have hcut : (Utf8.decode (bytes.take n)).2 ≠ .invalid := by
    refine Utf8.decode_take_ne_invalid n ?_
    rw [hbytes, Utf8.decode_encoded]
    simp
  have hnonzero : 0 ∉ bytes.take n := fun h => hzero (List.mem_of_mem_take h)
  have htype : sniffText (bytes.take n) = ofText (Utf8.wholeIn n cs) := by
    rw [sniffText_of_ne_invalid hnonzero hcut, hbytes, Utf8.decode_take_encoded]
  exact ⟨htype ▸ ofText_ne_unknown _, cs, hcs, htype⟩

/-- The last character of the text has three bytes, of which two are looked at. -/
theorem sniffText_take_price :
    "<html>€".toByteArray.data.toList.toByteArray.IsValidUTF8 ∧ 0 ∉ "<html>€".toByteArray.data.toList ∧
      sniffText ("<html>€".toByteArray.data.toList.take 8) ≠ unknown := by
  have hvalid : "<html>€".toByteArray.data.toList.toByteArray.IsValidUTF8 := "<html>€".isValidUTF8
  have hzero : 0 ∉ "<html>€".toByteArray.data.toList := by decide
  exact ⟨hvalid, hzero, (sniffText_take hvalid hzero 8).1⟩

end MediaType

end FieldRules
