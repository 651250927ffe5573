import IndexSearch.Proofs.Text.Encoding
import IndexSearch.Url.Percent

/-!
# Percent forms

Decoding reads a percent sign with two hexadecimal digits as the byte that they stand for, and every
other byte as it is. Encoding leaves a text alone that has no character of its set. A text that is
encoded and decoded comes back as it was if it has no percent form of its own, and shorter if it has
one, provided that percent signs are not encoded.
-/

namespace IndexSearch

theorem isAlphanum_iff {c : Char} : c.isAlphanum = true ↔
    48 ≤ c.toNat ∧ c.toNat ≤ 57 ∨ 65 ≤ c.toNat ∧ c.toNat ≤ 90 ∨ 97 ≤ c.toNat ∧ c.toNat ≤ 122 := by
  delta Char.isAlphanum Char.isAlpha Char.isUpper Char.isLower Char.isDigit
  simp only [Bool.or_eq_true, Bool.and_eq_true, decide_eq_true_eq, ge_iff_le,
    UInt32.le_iff_toNat_le]
  change ((65 ≤ c.toNat ∧ c.toNat ≤ 90) ∨ (97 ≤ c.toNat ∧ c.toNat ≤ 122)) ∨
    (48 ≤ c.toNat ∧ c.toNat ≤ 57) ↔ _
  omega

theorem ascii_of_isAlphanum {c : Char} (h : c.isAlphanum = true) : c.toNat < 128 := by
  rw [isAlphanum_iff] at h
  omega

theorem isAlphanum_of_digitValue? {base n : Nat} {c : Char}
    (h : Numeral.digitValue? base c = some n) : c.isAlphanum = true := by
  by_cases hdigit : c.isAlphanum = true
  · exact hdigit
  · rw [isAlphanum_iff] at hdigit
    have hdecimal : ¬ (48 ≤ c.toNat ∧ c.toNat ≤ 57) := by omega
    have hsmall : ¬ (97 ≤ c.toNat ∧ c.toNat ≤ 102) := by omega
    have hcapital : ¬ (65 ≤ c.toNat ∧ c.toNat ≤ 70) := by omega
    simp [Numeral.digitValue?, hdecimal, hsmall, hcapital] at h

theorem byte_toNat {c : Char} (ascii : c.toNat < 128) : (UInt8.ofNat c.toNat).toNat = c.toNat := by
  rw [UInt8.toNat_ofNat']
  omega

/-- ASCII characters with the same byte are the same. -/
theorem eq_of_byte_eq {c other : Char} (ascii : c.toNat < 128) (otherAscii : other.toNat < 128)
    (h : UInt8.ofNat c.toNat = UInt8.ofNat other.toNat) : c = other := by
  have hcode : c.toNat = other.toNat := by rw [← byte_toNat ascii, h, byte_toNat otherAscii]
  rw [← Char.ofNat_toNat c, hcode, Char.ofNat_toNat]

theorem byte_ne_of_isAlphanum {c mark : Char} (alphanumeric : c.isAlphanum = true)
    (ascii : mark.toNat < 128) (other : mark.isAlphanum = false) :
    UInt8.ofNat c.toNat ≠ UInt8.ofNat mark.toNat := by
  intro heq
  rw [eq_of_byte_eq (ascii_of_isAlphanum alphanumeric) ascii heq, other] at alphanumeric
  cases alphanumeric

/-- What holds of ASCII characters can be checked one by one. -/
theorem forall_ascii {motive : Char → Prop} (checked : ∀ n < 128, motive (Char.ofNat n)) {c : Char}
    (ascii : c.toNat < 128) : motive c := by
  have hmotive := checked c.toNat ascii
  rwa [Char.ofNat_toNat] at hmotive

theorem digitValue?_hexDigit :
    ∀ n < 16, Numeral.digitValue? 16 (Percent.hexDigit n) = some n := by
  decide

theorem digitValue?_byte (b : UInt8) :
    Numeral.digitValue? 16 (Percent.hexDigit (b.toNat / 16)) = some (b.toNat / 16) ∧
      Numeral.digitValue? 16 (Percent.hexDigit (b.toNat % 16)) = some (b.toNat % 16) := by
  have hbound : b.toNat < 256 := b.toNat_lt
  exact ⟨digitValue?_hexDigit _ (by omega), digitValue?_hexDigit _ (by omega)⟩

theorem byte_of_digits (b : UInt8) : UInt8.ofNat (16 * (b.toNat / 16) + b.toNat % 16) = b := by
  rw [Nat.div_add_mod, UInt8.ofNat_toNat]

namespace Percent

/-- A byte that is a hexadecimal digit is a letter or a digit. -/
theorem isAlphanum_of_hexValue? {b : UInt8} (h : (hexValue? b).isSome = true) :
    (Char.ofNat b.toNat).isAlphanum = true := by
  obtain ⟨n, hn⟩ := Option.isSome_iff_exists.mp h
  exact isAlphanum_of_digitValue? hn

theorem ascii_of_hexValue? {b : UInt8} (h : (hexValue? b).isSome = true) : b.toNat < 128 := by
  have hbound : b.toNat < 256 := b.toNat_lt
  have hvalid : b.toNat.isValidChar := Or.inl (by omega)
  have hascii := ascii_of_isAlphanum (isAlphanum_of_hexValue? h)
  rw [Char.ofNat, dif_pos hvalid] at hascii
  exact hascii

def leadsHex : Bytes → Bool
  | high :: low :: _ => (hexValue? high).isSome && (hexValue? low).isSome
  | _ => false

/-- A byte that is no percent sign stands for itself. -/
theorem decode_cons_of_ne {b : UInt8} (h : b ≠ 37) (rest : Bytes) :
    decode (b :: rest) = b :: decode rest := by
  rw [decode]
  intro _ _ _ heq
  exact False.elim (h heq)

/-- So does a percent sign without two hexadecimal digits behind it. -/
theorem decode_percent {rest : Bytes} (h : leadsHex rest = false) :
    decode (37 :: rest) = 37 :: decode rest := by
  match rest, h with
  | [], _ => rfl
  | [_], _ => rfl
  | high :: low :: rest, h =>
    rw [decode]
    simp only [leadsHex] at h
    cases hhigh : hexValue? high with
    | none => rfl
    | some _ =>
      cases hlow : hexValue? low with
      | none => rfl
      | some _ => simp [hhigh, hlow] at h

/-- A percent form stands for its byte. -/
theorem decode_form {high low : Char} {highValue lowValue : Nat}
    (highDigit : Numeral.digitValue? 16 high = some highValue)
    (lowDigit : Numeral.digitValue? 16 low = some lowValue) (rest : Bytes) :
    decode (37 :: UInt8.ofNat high.toNat :: UInt8.ofNat low.toNat :: rest) =
      UInt8.ofNat (16 * highValue + lowValue) :: decode rest := by
  have hvalue : ∀ {c : Char} {n : Nat}, Numeral.digitValue? 16 c = some n →
      hexValue? (UInt8.ofNat c.toNat) = some n := by
    intro c n hdigit
    have hascii := ascii_of_isAlphanum (isAlphanum_of_digitValue? hdigit)
    rw [hexValue?, byte_toNat hascii, Char.ofNat_toNat, hdigit]
  rw [decode]
  simp only [hvalue highDigit, hvalue lowDigit]

theorem decode_append_of_clear {bytes : Bytes} (clear : ∀ b ∈ bytes, b ≠ 37) (rest : Bytes) :
    decode (bytes ++ rest) = bytes ++ decode rest := by
  induction bytes with
  | nil => rfl
  | cons b bytes ih =>
    rw [List.forall_mem_cons] at clear
    rw [List.cons_append, decode_cons_of_ne clear.1, ih clear.2, List.cons_append]

/-- A byte that is in no percent form separates those before it from those behind it. -/
theorem decode_append_cons {b : UInt8} (sign : b ≠ 37) (digit : hexValue? b = none)
    (bytes rest : Bytes) :
    decode (bytes ++ b :: rest) = decode bytes ++ b :: decode rest := by
  -- The cases are those of `decode`: the end, a form, a sign without digits, any other byte.
  fun_induction decode bytes with
  | case1 => exact decode_cons_of_ne sign rest
  | case2 high low bytes highValue lowValue hhigh hlow ih =>
    simp only [List.cons_append]
    rw [decode]
    simp only [hhigh, hlow, ih]
  | case3 high low bytes unpaired ih =>
    have hleads : leadsHex (high :: low :: bytes ++ b :: rest) = false := by
      simp only [List.cons_append, leadsHex]
      cases hhigh : hexValue? high with
      | none => rfl
      | some _ =>
        cases hlow : hexValue? low with
        | none => rfl
        | some _ => exact False.elim (unpaired _ _ hhigh hlow)
    rw [List.cons_append, decode_percent hleads, ih, List.cons_append]
  | case4 first bytes short ih =>
    by_cases hfirst : first = 37
    · subst hfirst
      have hleads : leadsHex (bytes ++ b :: rest) = false := by
        match bytes, short with
        | [], _ => cases rest <;> simp [leadsHex, digit]
        | [_], _ => simp [leadsHex, digit]
        | _ :: _ :: _, short => exact False.elim (short _ _ _ rfl rfl)
      rw [List.cons_append, decode_percent hleads, ih, List.cons_append]
    · rw [List.cons_append, decode_cons_of_ne hfirst, ih, List.cons_append]

/-- So does a character, if it is neither a percent sign nor a letter nor a digit. -/
theorem decodeText_append_cons {c : Char} (ascii : c.toNat < 128) (sign : c ≠ '%')
    (mark : c.isAlphanum = false) (text more : Text) :
    decodeText (text ++ c :: more) = decodeText text ++ c :: decodeText more := by
  have hbyte := byte_toNat ascii
  have hsign : UInt8.ofNat c.toNat ≠ UInt8.ofNat '%'.toNat :=
    fun heq => sign (eq_of_byte_eq ascii (by decide) heq)
  have hdigit : hexValue? (UInt8.ofNat c.toNat) = none := by
    cases hvalue : hexValue? (UInt8.ofNat c.toNat) with
    | none => rfl
    | some _ =>
      have halnum := isAlphanum_of_hexValue? (Option.isSome_of_eq_some hvalue)
      rw [hbyte, Char.ofNat_toNat, mark] at halnum
      cases halnum
  rw [decodeText, Utf8.encode_append, Utf8.encode_cons_ascii ascii,
    decode_append_cons hsign hdigit, Utf8.decodeLossy_append_ascii (by omega), hbyte,
    Char.ofNat_toNat]
  rfl

theorem encode_of_clear {set : Char → Bool} {text : Text} (clear : ∀ c ∈ text, set c = false) :
    encode set text = text := by
  induction text with
  | nil => rfl
  | cons c text ih =>
    rw [List.forall_mem_cons] at clear
    rw [encode, List.flatMap_cons, if_neg (by simp [clear.1])]
    exact congrArg (c :: ·) (ih clear.2)

theorem encode_cons_of_clear {set : Char → Bool} {c : Char} (clear : set c = false)
    (text : Text) : encode set (c :: text) = c :: encode set text := by
  rw [encode, List.flatMap_cons, if_neg (by simp [clear])]
  rfl

theorem encode_cons_of_mem {set : Char → Bool} {c : Char} (mem : set c = true) (text : Text) :
    encode set (c :: text) = (String.utf8EncodeChar c).flatMap encodeByte ++ encode set text := by
  rw [encode, List.flatMap_cons, if_pos mem, Utf8.encode, List.flatMap_singleton]
  rfl

/-- A percent form has a percent sign, letters and digits only. -/
theorem not_mem_encodeBytes {c : Char} (sign : c ≠ '%') (mark : c.isAlphanum = false)
    (bytes : Bytes) : c ∉ bytes.flatMap encodeByte := by
  intro hmem
  obtain ⟨b, _, hb⟩ := List.mem_flatMap.mp hmem
  have hhigh := isAlphanum_of_digitValue? (digitValue?_byte b).1
  have hlow := isAlphanum_of_digitValue? (digitValue?_byte b).2
  simp only [encodeByte, List.mem_cons, List.not_mem_nil, or_false] at hb
  rcases hb with rfl | rfl | rfl
  · exact sign rfl
  · rw [hhigh] at mark
    cases mark
  · rw [hlow] at mark
    cases mark

theorem decode_encodeByte (b : UInt8) (rest : Bytes) :
    decode (Utf8.encode (encodeByte b) ++ rest) = b :: decode rest := by
  obtain ⟨hhigh, hlow⟩ := digitValue?_byte b
  rw [encodeByte, Utf8.encode_cons_ascii (by decide),
    Utf8.encode_cons_ascii (ascii_of_isAlphanum (isAlphanum_of_digitValue? hhigh)),
    Utf8.encode_cons_ascii (ascii_of_isAlphanum (isAlphanum_of_digitValue? hlow))]
  exact (decode_form hhigh hlow rest).trans (by rw [byte_of_digits])

theorem decode_encodeBytes (bytes rest : Bytes) :
    decode (Utf8.encode (bytes.flatMap encodeByte) ++ rest) = bytes ++ decode rest := by
  induction bytes with
  | nil => rfl
  | cons b bytes ih =>
    rw [List.flatMap_cons, Utf8.encode_append, List.append_assoc, decode_encodeByte, ih,
      List.cons_append]

def startsHex : Text → Bool
  | high :: low :: _ =>
    (Numeral.digitValue? 16 high).isSome && (Numeral.digitValue? 16 low).isSome
  | _ => false

/-- Whether a percent sign stands in a text with two hexadecimal digits behind it. -/
def hasForm : Text → Bool
  | [] => false
  | c :: text => (c == '%' && startsHex text) || hasForm text

theorem hasForm_append_left {text : Text} (h : hasForm text = true) (more : Text) :
    hasForm (text ++ more) = true := by
  induction text with
  | nil => cases h
  | cons c text ih =>
    rw [hasForm, Bool.or_eq_true] at h
    rw [List.cons_append, hasForm, Bool.or_eq_true]
    rcases h with hform | hrest
    · refine Or.inl ?_
      rw [Bool.and_eq_true] at hform ⊢
      refine ⟨hform.1, ?_⟩
      match text, hform.2 with
      | _ :: _ :: _, hdigits => exact hdigits
    · exact Or.inr (ih hrest)

theorem hasForm_append_right {text : Text} (h : hasForm text = true) (before : Text) :
    hasForm (before ++ text) = true := by
  induction before with
  | nil => exact h
  | cons c before ih => rw [List.cons_append, hasForm, ih, Bool.or_true]

theorem hasForm_of_isInfix {text whole : Text} (within : text <:+: whole)
    (h : hasForm text = true) : hasForm whole = true := by
  obtain ⟨before, after, rfl⟩ := within
  exact hasForm_append_left (hasForm_append_right h before) after

/-- The bytes of a text begin with two digits only if the text does. -/
theorem startsHex_of_leadsHex {text : Text} (h : leadsHex (Utf8.encode text) = true) :
    startsHex text = true := by
  match hbytes : Utf8.encode text with
  | [] => simp [hbytes, leadsHex] at h
  | [_] => simp [hbytes, leadsHex] at h
  | high :: low :: rest =>
    rw [hbytes, leadsHex, Bool.and_eq_true] at h
    obtain ⟨others, rfl, hothers⟩ :=
      Utf8.exists_of_encode_eq_cons (ascii_of_hexValue? h.1) hbytes
    obtain ⟨after, rfl, _⟩ := Utf8.exists_of_encode_eq_cons (ascii_of_hexValue? h.2) hothers
    rw [startsHex, Bool.and_eq_true]
    exact h

theorem startsHex_percent (text : Text) : startsHex ('%' :: text) = false := by
  have hsign : Numeral.digitValue? 16 '%' = none := by decide
  cases text <;> simp [startsHex, hsign]

/-- An encoded text begins as the text does, or with a percent sign. -/
theorem encode_cons_cases (set : Char → Bool) (c : Char) (text : Text) :
    encode set (c :: text) = c :: encode set text ∨
      ∃ rest, encode set (c :: text) = '%' :: rest := by
  by_cases hset : set c = true
  · obtain ⟨b, bytes, hbytes⟩ := Utf8.exists_utf8EncodeChar_eq_cons c
    rw [encode_cons_of_mem hset, hbytes, List.flatMap_cons, encodeByte]
    exact Or.inr ⟨_, rfl⟩
  · exact Or.inl (encode_cons_of_clear (by simpa using hset) text)

theorem startsHex_of_encode {set : Char → Bool} {text : Text}
    (h : startsHex (encode set text) = true) : startsHex text = true := by
  match text with
  | [] => cases h
  | high :: others =>
    rcases encode_cons_cases set high others with hplain | ⟨rest, hform⟩
    · rw [hplain] at h
      match others with
      | [] => cases h
      | low :: others =>
        rcases encode_cons_cases set low others with hnext | ⟨rest, hform⟩
        · rw [hnext] at h
          exact h
        · have hsign : Numeral.digitValue? 16 '%' = none := by decide
          simp [hform, startsHex, hsign] at h
    · rw [hform, startsHex_percent] at h
      cases h

section

variable {set : Char → Bool}

/-- A character that begins no percent form is read back as it was. -/
theorem decodeText_encode_cons {c : Char} {text : Text}
    (formless : ¬ (c = '%' ∧ startsHex text = true)) :
    decodeText (encode set (c :: text)) = c :: decodeText (encode set text) := by
  have hbytes : decode (Utf8.encode (encode set (c :: text))) =
      String.utf8EncodeChar c ++ decode (Utf8.encode (encode set text)) := by
    by_cases hset : set c = true
    · rw [encode_cons_of_mem hset, Utf8.encode_append, decode_encodeBytes]
    · have hclear : set c = false := by simpa using hset
      rw [encode_cons_of_clear hclear, Utf8.encode_cons]
      by_cases hsign : c = '%'
      · subst hsign
        have hleads : leadsHex (Utf8.encode (encode set text)) = false := by
          rw [Bool.eq_false_iff]
          exact fun h => formless ⟨rfl, startsHex_of_encode (startsHex_of_leadsHex h)⟩
        exact decode_percent hleads
      · refine decode_append_of_clear ?_ _
        rintro b hb rfl
        exact hsign (Utf8.eq_of_mem_utf8EncodeChar (by decide) hb)
  rw [decodeText, hbytes, Utf8.decodeLossy_utf8EncodeChar]
  rfl

theorem decodeText_encode {text : Text} (formless : hasForm text = false) :
    decodeText (encode set text) = text := by
  induction text with
  | nil => rfl
  | cons c text ih =>
    rw [hasForm, Bool.or_eq_false_iff] at formless
    have hstart : ¬ (c = '%' ∧ startsHex text = true) := by simpa using formless.1
    rw [decodeText_encode_cons hstart, ih formless.2]

variable (signless : set '%' = false) (markless : ∀ c, c.isAlphanum = true → set c = false)

include signless markless

/-- A percent form is read as one byte. -/
theorem length_decodeText_form_le {high low : Char} {text : Text}
    (h : startsHex (high :: low :: text) = true) :
    (decodeText (encode set ('%' :: high :: low :: text))).length ≤
      1 + (decodeText (encode set text)).length := by
  rw [startsHex, Bool.and_eq_true] at h
  obtain ⟨highValue, hhigh⟩ := Option.isSome_iff_exists.mp h.1
  obtain ⟨lowValue, hlow⟩ := Option.isSome_iff_exists.mp h.2
  have hhighPlain := isAlphanum_of_digitValue? hhigh
  have hlowPlain := isAlphanum_of_digitValue? hlow
  have hsign : UInt8.ofNat '%'.toNat = 37 := by decide
  rw [encode_cons_of_clear signless, encode_cons_of_clear (markless _ hhighPlain),
    encode_cons_of_clear (markless _ hlowPlain), decodeText, Utf8.encode_cons_ascii (by decide),
    Utf8.encode_cons_ascii (ascii_of_isAlphanum hhighPlain),
    Utf8.encode_cons_ascii (ascii_of_isAlphanum hlowPlain), hsign, decode_form hhigh hlow]
  exact Utf8.length_decodeLossy_cons_le _ _

theorem length_decodeText_encode_le (text : Text) :
    (decodeText (encode set text)).length ≤ text.length := by
  match text with
  | [] => exact Nat.le_refl 0
  | c :: others =>
    by_cases hform : c = '%' ∧ startsHex others = true
    · obtain ⟨rfl, hstarts⟩ := hform
      match others, hstarts with
      | high :: low :: others, hstarts =>
        have hbyte := length_decodeText_form_le signless markless hstarts
        have hrest := length_decodeText_encode_le others
        simp only [List.length_cons]
        omega
    · have hrest := length_decodeText_encode_le others
      rw [decodeText_encode_cons hform, List.length_cons, List.length_cons]
      omega
termination_by text.length

theorem length_decodeText_encode_lt {text : Text} (form : hasForm text = true) :
    (decodeText (encode set text)).length < text.length := by
  induction text with
  | nil => cases form
  | cons c others ih =>
    by_cases hform : c = '%' ∧ startsHex others = true
    · obtain ⟨rfl, hstarts⟩ := hform
      match others, hstarts with
      | high :: low :: others, hstarts =>
        have hbyte := length_decodeText_form_le signless markless hstarts
        have hrest := length_decodeText_encode_le signless markless others
        simp only [List.length_cons]
        omega
    · have hothers : hasForm others = true := by
        rw [hasForm, Bool.or_eq_true, Bool.and_eq_true, beq_iff_eq] at form
        exact form.resolve_left hform
      have hrest := ih hothers
      rw [decodeText_encode_cons hform, List.length_cons, List.length_cons]
      omega

end

end Percent

end IndexSearch
