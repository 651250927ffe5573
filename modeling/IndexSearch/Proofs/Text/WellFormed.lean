import IndexSearch.Proofs.Text.Delimiters

/-!
# Well-formed bytes

Bytes that decode strictly are those of the text that they decode to, since the bounds on the
sequences exclude all other ways to spell a character. So a text has as many bytes as it was
decoded from. Nothing is said about bytes that are malformed somewhere.
-/

namespace IndexSearch.Utf8

theorem utf8EncodeChar_two {b n : Nat} (low : 0xC2 ≤ b) (high : b < 0xE0) (hn : n < 64) :
    String.utf8EncodeChar (Char.ofNat ((b - 0xC0) * 64 + n)) =
      [UInt8.ofNat b, UInt8.ofNat (n + 128)] := by
  generalize hv : (b - 0xC0) * 64 + n = v
  have hcode : (Char.ofNat v).toNat = v := toNat_ofNat_of_valid (Or.inl (by omega))
  have hfirst : v / 64 % 32 + 192 = b := by omega
  have hsecond : v % 64 + 128 = n + 128 := by omega
  rw [String.utf8EncodeChar, Char.toNat_val, hcode, if_neg (by omega), if_pos (by omega), hfirst,
    hsecond]

/-- The bounds of the second byte leave out overlong forms and surrogates. -/
theorem utf8EncodeChar_three {b n m : Nat} (low : 0xE0 ≤ b) (high : b < 0xF0) (hn : n < 64)
    (hm : m < 64) (least : b = 0xE0 → 32 ≤ n) (greatest : b = 0xED → n < 32) :
    String.utf8EncodeChar (Char.ofNat (((b - 0xE0) * 64 + n) * 64 + m)) =
      [UInt8.ofNat b, UInt8.ofNat (n + 128), UInt8.ofNat (m + 128)] := by
  generalize hv : ((b - 0xE0) * 64 + n) * 64 + m = v
  have hcode : (Char.ofNat v).toNat = v := by
    refine toNat_ofNat_of_valid ?_
    by_cases below : b < 0xEE
    · exact Or.inl (by omega)
    · exact Or.inr ⟨by omega, by omega⟩
  have hfirst : v / 4096 % 16 + 224 = b := by omega
  have hsecond : v / 64 % 64 + 128 = n + 128 := by omega
  have hthird : v % 64 + 128 = m + 128 := by omega
  rw [String.utf8EncodeChar, Char.toNat_val, hcode, if_neg (by omega), if_neg (by omega),
    if_pos (by omega), hfirst, hsecond, hthird]

/-- The bounds of the second byte leave out overlong forms and what is beyond U+10FFFF. -/
theorem utf8EncodeChar_four {b n m k : Nat} (low : 0xF0 ≤ b) (high : b < 0xF5) (hn : n < 64)
    (hm : m < 64) (hk : k < 64) (least : b = 0xF0 → 16 ≤ n) (greatest : b = 0xF4 → n < 16) :
    String.utf8EncodeChar (Char.ofNat ((((b - 0xF0) * 64 + n) * 64 + m) * 64 + k)) =
      [UInt8.ofNat b, UInt8.ofNat (n + 128), UInt8.ofNat (m + 128), UInt8.ofNat (k + 128)] := by
  generalize hv : (((b - 0xF0) * 64 + n) * 64 + m) * 64 + k = v
  have hcode : (Char.ofNat v).toNat = v :=
    toNat_ofNat_of_valid (Or.inr ⟨by omega, by omega⟩)
  have hfirst : v / 262144 % 8 + 240 = b := by omega
  have hsecond : v / 4096 % 64 + 128 = n + 128 := by omega
  have hthird : v / 64 % 64 + 128 = m + 128 := by omega
  have hfourth : v % 64 + 128 = k + 128 := by omega
  rw [String.utf8EncodeChar, Char.toNat_val, hcode, if_neg (by omega), if_neg (by omega),
    if_neg (by omega), hfirst, hsecond, hthird, hfourth]

/-- What an open sequence with a character at its end goes on with: a continuation byte, after which
it is complete or owes one byte less. -/
theorem exists_of_unitsFrom_some {p : Pending} (proper : Proper (some p)) {bytes : Bytes} {c : Char}
    {others : List (Option Char)} (h : unitsFrom (some p) bytes = some c :: others) :
    ∃ n < 64, ∃ rest, bytes = UInt8.ofNat (n + 128) :: rest ∧ p.low ≤ n + 128 ∧
      n + 128 ≤ p.high ∧
      if p.owed ≤ 1 then c = Char.ofNat (p.bits * 64 + n) ∧ units rest = others
      else unitsFrom (some ⟨p.owed - 1, 0x80, 0xBF, p.bits * 64 + n⟩) rest = some c :: others := by
  cases bytes with
  | nil => cases h
  | cons b rest =>
    obtain ⟨hlow, hhigh⟩ := proper p rfl
    by_cases within : p.low ≤ b.toNat ∧ b.toNat ≤ p.high
    · have hbyte : b.toNat - 128 + 128 = b.toNat := by omega
      have hb : UInt8.ofNat (b.toNat - 128 + 128) = b := by rw [hbyte, UInt8.ofNat_toNat]
      rw [← hb, unitsFrom_continuation (by omega) (by omega) (by omega)] at h
      refine ⟨b.toNat - 128, by omega, rest, by rw [hb], by omega, by omega, ?_⟩
      split
      · rename_i last
        rw [if_pos last] at h
        obtain ⟨hchar, hothers⟩ := List.cons.inj h
        exact ⟨(Option.some.inj hchar).symm, hothers⟩
      · rename_i more
        rwa [if_neg more] at h
    · simp [unitsFrom, step, within] at h

theorem proper_continuation (owed bits : Nat) : Proper (some ⟨owed, 0x80, 0xBF, bits⟩) := by
  rintro _ ⟨⟩
  exact ⟨Nat.le_refl _, Nat.le_refl _⟩

/-- The three kinds of bytes that open a sequence. -/
theorem lead_eq_opening {b : UInt8} {p : Pending} (h : lead b = .opening p) :
    (0xC2 ≤ b.toNat ∧ b.toNat < 0xE0 ∧ p = ⟨1, 0x80, 0xBF, b.toNat - 0xC0⟩) ∨
    (0xE0 ≤ b.toNat ∧ b.toNat < 0xF0 ∧ p = ⟨2, if b.toNat = 0xE0 then 0xA0 else 0x80,
      if b.toNat = 0xED then 0x9F else 0xBF, b.toNat - 0xE0⟩) ∨
    (0xF0 ≤ b.toNat ∧ b.toNat < 0xF5 ∧ p = ⟨3, if b.toNat = 0xF0 then 0x90 else 0x80,
      if b.toNat = 0xF4 then 0x8F else 0xBF, b.toNat - 0xF0⟩) := by
  simp only [lead] at h
  split at h
  · cases h
  · split at h
    · cases h
    · split at h
      · cases h
        exact Or.inl ⟨by omega, by omega, rfl⟩
      · split at h
        · cases h
          exact Or.inr (Or.inl ⟨by omega, by omega, rfl⟩)
        · split at h
          · cases h
            exact Or.inr (Or.inr ⟨by omega, by omega, rfl⟩)
          · cases h

/-- A sequence that comes to a character at last has the bytes of this character. -/
theorem exists_of_opening {b : UInt8} {p : Pending} (hlead : lead b = .opening p) {bytes : Bytes}
    {c : Char} {others : List (Option Char)} (h : unitsFrom (some p) bytes = some c :: others) :
    ∃ rest, b :: bytes = String.utf8EncodeChar c ++ rest ∧ units rest = others := by
  obtain ⟨n, hn, rest, rfl, hlow, hhigh, hrest⟩ :=
    exists_of_unitsFrom_some (lead_proper hlead) h
  -- How many bytes follow, and where the second one lies, depends on the kind of the first one.
  rcases lead_eq_opening hlead with ⟨low, high, rfl⟩ | ⟨low, high, rfl⟩ | ⟨low, high, rfl⟩
  · obtain ⟨rfl, hothers⟩ := hrest
    have hbytes := utf8EncodeChar_two low high hn
    rw [UInt8.ofNat_toNat] at hbytes
    exact ⟨rest, congrArg (· ++ rest) hbytes.symm, hothers⟩
  · obtain ⟨m, hm, after, rfl, _, _, rfl, hothers⟩ :=
      exists_of_unitsFrom_some (proper_continuation _ _) hrest
    have hbytes := utf8EncodeChar_three low high hn hm
      (fun heq => by simp only [if_pos heq] at hlow; omega)
      (fun heq => by simp only [if_pos heq] at hhigh; omega)
    rw [UInt8.ofNat_toNat] at hbytes
    exact ⟨after, congrArg (· ++ after) hbytes.symm, hothers⟩
  · obtain ⟨m, hm, middle, rfl, _, _, hmiddle⟩ :=
      exists_of_unitsFrom_some (proper_continuation _ _) hrest
    obtain ⟨k, hk, after, rfl, _, _, rfl, hothers⟩ :=
      exists_of_unitsFrom_some (proper_continuation _ _) hmiddle
    have hbytes := utf8EncodeChar_four low high hn hm hk
      (fun heq => by simp only [if_pos heq] at hlow; omega)
      (fun heq => by simp only [if_pos heq] at hhigh; omega)
    rw [UInt8.ofNat_toNat] at hbytes
    exact ⟨after, congrArg (· ++ after) hbytes.symm, hothers⟩

/-- Bytes from which a character is read first begin with the bytes of this character. -/
theorem exists_of_units_cons {bytes : Bytes} {c : Char} {others : List (Option Char)}
    (h : units bytes = some c :: others) :
    ∃ rest, bytes = String.utf8EncodeChar c ++ rest ∧ units rest = others := by
  cases bytes with
  | nil => cases h
  | cons b bytes =>
    cases hlead : lead b with
    | char found =>
      obtain ⟨hascii, rfl⟩ := eq_of_mem_start (b := b) (c := found) (by simp [start, hlead])
      rw [units, ← UInt8.ofNat_toNat (x := b), unitsFrom_ascii hascii] at h
      obtain ⟨hchar, hothers⟩ := List.cons.inj h
      obtain rfl := Option.some.inj hchar
      have hcode : (Char.ofNat b.toNat).toNat = b.toNat :=
        toNat_ofNat_of_valid (Or.inl (by omega))
      refine ⟨bytes, ?_, hothers⟩
      rw [String.utf8EncodeChar, Char.toNat_val, hcode, if_pos (by omega), UInt8.ofNat_toNat]
      rfl
    | stray => simp [units, unitsFrom, step, start, hlead] at h
    | opening p =>
      rw [units, unitsFrom_opening hlead] at h
      exact exists_of_opening hlead h

/-- Bytes without gaps are those of the text that is read from them. -/
theorem eq_encode_of_units {bytes : Bytes} {text : Text} (h : units bytes = text.map some) :
    bytes = encode text := by
  induction text generalizing bytes with
  | nil => exact decodeLossy_eq_nil_iff.mp (by rw [decodeLossy, h]; rfl)
  | cons c text ih =>
    obtain ⟨rest, rfl, hrest⟩ := exists_of_units_cons h
    rw [encode_cons, ← ih hrest]

theorem units_eq_map_some {units : List (Option Char)} {text : Text}
    (h : units.mapM id = some text) : units = text.map some := by
  induction units generalizing text with
  | nil =>
    cases h
    rfl
  | cons unit units ih =>
    cases unit with
    | none => simp at h
    | some c =>
      simp only [List.mapM_cons, id_eq, Option.bind_eq_bind, Option.bind_some, Option.pure_def,
        Option.bind_eq_some_iff, Option.some.injEq] at h
      obtain ⟨others, hothers, rfl⟩ := h
      rw [ih hothers, List.map_cons]

/-- Strict decoding accepts just the bytes of a text. -/
theorem decode?_eq_some_iff {bytes : Bytes} {text : Text} :
    decode? bytes = some text ↔ bytes = encode text := by
  constructor
  · intro h
    exact eq_encode_of_units (units_eq_map_some h)
  · rintro rfl
    exact decode?_encode text

end IndexSearch.Utf8
