import IndexSearch.Text.Utf8

/-!
# Texts and their bytes

Decoding the bytes of a text gives back the text, strictly and lossily, and whatever bytes follow
are read as if they stood alone. A byte below 128 occurs in the bytes of a text only as the whole
of its character, so a text can be cut at ASCII delimiters before or after it is encoded.
-/

namespace IndexSearch.Utf8

@[simp] theorem encode_nil : encode [] = [] :=
  rfl

@[simp] theorem encode_append (text other : Text) :
    encode (text ++ other) = encode text ++ encode other :=
  List.flatMap_append

theorem encode_cons (c : Char) (text : Text) :
    encode (c :: text) = String.utf8EncodeChar c ++ encode text :=
  List.flatMap_cons

theorem encode_flatMap {α : Type} (items : List α) (f : α → Text) :
    encode (items.flatMap f) = items.flatMap fun item => encode (f item) :=
  List.flatMap_assoc

theorem unitsFrom_ascii {n : Nat} (h : n < 128) (rest : Bytes) :
    unitsFrom none (UInt8.ofNat n :: rest) = some (Char.ofNat n) :: unitsFrom none rest := by
  have hn : n % 256 = n := by omega
  simp [unitsFrom, step, start, lead, hn, h]

theorem unitsFrom_opening {b : UInt8} {p : Pending} (h : lead b = .opening p) (rest : Bytes) :
    unitsFrom none (b :: rest) = unitsFrom (some p) rest := by
  simp [unitsFrom, step, start, h]

/-- A byte within the bounds of an open sequence adds its six bits and completes the sequence if it
was the last one owed. -/
theorem unitsFrom_continuation {p : Pending} {n : Nat} (h : n < 64) (low : p.low ≤ n + 128)
    (high : n + 128 ≤ p.high) (rest : Bytes) :
    unitsFrom (some p) (UInt8.ofNat (n + 128) :: rest) =
      if p.owed ≤ 1 then some (Char.ofNat (p.bits * 64 + n)) :: unitsFrom none rest
      else unitsFrom (some ⟨p.owed - 1, 0x80, 0xBF, p.bits * 64 + n⟩) rest := by
  have hn : (n + 128) % 256 = n + 128 := by omega
  by_cases howed : p.owed ≤ 1 <;> simp [unitsFrom, step, hn, low, high, howed]

theorem lead_of_two {n : Nat} (low : 0xC2 ≤ n) (high : n < 0xE0) :
    lead (UInt8.ofNat n) = .opening ⟨1, 0x80, 0xBF, n - 0xC0⟩ := by
  have hn : n % 256 = n := by omega
  simp only [lead, UInt8.toNat_ofNat', Nat.reducePow, hn]
  rw [if_neg (by omega), if_neg (by omega), if_pos high]

theorem lead_of_three {n : Nat} (low : 0xE0 ≤ n) (high : n < 0xF0) :
    lead (UInt8.ofNat n) = .opening ⟨2, if n = 0xE0 then 0xA0 else 0x80,
      if n = 0xED then 0x9F else 0xBF, n - 0xE0⟩ := by
  have hn : n % 256 = n := by omega
  simp only [lead, UInt8.toNat_ofNat', Nat.reducePow, hn]
  rw [if_neg (by omega), if_neg (by omega), if_neg (by omega), if_pos high]

theorem lead_of_four {n : Nat} (low : 0xF0 ≤ n) (high : n < 0xF5) :
    lead (UInt8.ofNat n) = .opening ⟨3, if n = 0xF0 then 0x90 else 0x80,
      if n = 0xF4 then 0x8F else 0xBF, n - 0xF0⟩ := by
  have hn : n % 256 = n := by omega
  simp only [lead, UInt8.toNat_ofNat', Nat.reducePow, hn]
  rw [if_neg (by omega), if_neg (by omega), if_neg (by omega), if_neg (by omega), if_pos high]

/-- The bytes of a character are read as that character, whatever follows them. -/
theorem unitsFrom_utf8EncodeChar (c : Char) (rest : Bytes) :
    unitsFrom none (String.utf8EncodeChar c ++ rest) = some c :: unitsFrom none rest := by
  have hvalid : c.toNat < 0xD800 ∨ 0xDFFF < c.toNat ∧ c.toNat < 0x110000 := c.valid
  have hchar : ∀ n, n = c.toNat → some (Char.ofNat n) = some c :=
    fun n hn => by rw [hn, Char.ofNat_toNat]
  simp only [String.utf8EncodeChar, Char.toNat_val]
  generalize c.toNat = v at hvalid hchar
  by_cases hone : v ≤ 127
  · rw [if_pos hone, List.singleton_append, unitsFrom_ascii (by omega), hchar v rfl]
  · rw [if_neg hone]
    by_cases htwo : v ≤ 2047
    · rw [if_pos htwo]
      simp only [List.cons_append, List.nil_append]
      rw [unitsFrom_opening (lead_of_two (by omega) (by omega)),
        unitsFrom_continuation (by omega) (by simp) (by simp; omega),
        if_pos (by simp), hchar _ (by simp; omega)]
    · rw [if_neg htwo]
      by_cases hthree : v ≤ 65535
      · rw [if_pos hthree]
        simp only [List.cons_append, List.nil_append]
        rw [unitsFrom_opening (lead_of_three (by omega) (by omega)),
          unitsFrom_continuation (by omega) (by simp only; split <;> omega)
            (by simp only; split <;> omega), if_neg (by simp),
          unitsFrom_continuation (by omega) (by simp) (by simp; omega),
          if_pos (by simp), hchar _ (by simp; omega)]
      · rw [if_neg hthree]
        simp only [List.cons_append, List.nil_append]
        rw [unitsFrom_opening (lead_of_four (by omega) (by omega)),
          unitsFrom_continuation (by omega) (by simp only; split <;> omega)
            (by simp only; split <;> omega), if_neg (by simp),
          unitsFrom_continuation (by omega) (by simp) (by simp; omega), if_neg (by simp),
          unitsFrom_continuation (by omega) (by simp) (by simp; omega),
          if_pos (by simp), hchar _ (by simp; omega)]

/-- The bytes of a text are read as its characters, whatever follows them. -/
theorem units_encode_append (text : Text) (rest : Bytes) :
    units (encode text ++ rest) = text.map some ++ units rest := by
  induction text with
  | nil => rfl
  | cons c text ih =>
    rw [encode_cons, List.append_assoc, units, unitsFrom_utf8EncodeChar, List.map_cons,
      List.cons_append]
    exact congrArg (some c :: ·) ih

theorem units_encode (text : Text) : units (encode text) = text.map some := by
  have h := units_encode_append text []
  rw [List.append_nil, show units [] = [] from rfl, List.append_nil] at h
  exact h

theorem decode?_encode (text : Text) : decode? (encode text) = some text := by
  rw [decode?, units_encode]
  induction text with
  | nil => rfl
  | cons c text ih => simp [List.mapM_cons, ih]

theorem decodeLossy_encode (text : Text) : decodeLossy (encode text) = text := by
  rw [decodeLossy, units_encode, List.map_map]
  exact List.map_id text

theorem decodeLossy_utf8EncodeChar (c : Char) (rest : Bytes) :
    decodeLossy (String.utf8EncodeChar c ++ rest) = c :: decodeLossy rest := by
  rw [decodeLossy, units, unitsFrom_utf8EncodeChar]
  rfl

/-- Every byte of a character beyond ASCII has its high bit set. -/
theorem high_of_mem_utf8EncodeChar {c : Char} {b : UInt8} (beyond : 127 < c.toNat)
    (h : b ∈ String.utf8EncodeChar c) : 128 ≤ b.toNat := by
  simp only [String.utf8EncodeChar, Char.toNat_val, if_neg (Nat.not_le.mpr beyond)] at h
  split at h
  · simp only [List.mem_cons, List.not_mem_nil, or_false] at h
    rcases h with rfl | rfl <;> rw [UInt8.toNat_ofNat'] <;> omega
  · split at h
    · simp only [List.mem_cons, List.not_mem_nil, or_false] at h
      rcases h with rfl | rfl | rfl <;> rw [UInt8.toNat_ofNat'] <;> omega
    · simp only [List.mem_cons, List.not_mem_nil, or_false] at h
      rcases h with rfl | rfl | rfl | rfl <;> rw [UInt8.toNat_ofNat'] <;> omega

/-- A byte below 128 is the whole of its character. -/
theorem eq_of_mem_utf8EncodeChar {c : Char} {b : UInt8} (ascii : b.toNat < 128)
    (h : b ∈ String.utf8EncodeChar c) : c = Char.ofNat b.toNat := by
  by_cases hone : c.toNat ≤ 127
  · simp only [String.utf8EncodeChar, Char.toNat_val, if_pos hone, List.mem_singleton] at h
    rw [h, UInt8.toNat_ofNat', Nat.mod_eq_of_lt (by omega), Char.ofNat_toNat]
  · have hhigh := high_of_mem_utf8EncodeChar (by omega) h
    omega

theorem encode_cons_ascii {c : Char} (ascii : c.toNat < 128) (text : Text) :
    encode (c :: text) = UInt8.ofNat c.toNat :: encode text := by
  rw [encode_cons, String.utf8EncodeChar, Char.toNat_val, if_pos (by omega)]
  rfl

/-- A byte below 128 stands for its character wherever it occurs in an encoded text. -/
theorem mem_of_mem_encode {text : Text} {b : UInt8} (ascii : b.toNat < 128)
    (h : b ∈ encode text) : Char.ofNat b.toNat ∈ text := by
  obtain ⟨c, hc, hb⟩ := List.mem_flatMap.mp h
  rwa [← eq_of_mem_utf8EncodeChar ascii hb]

theorem exists_utf8EncodeChar_eq_cons (c : Char) :
    ∃ b bytes, String.utf8EncodeChar c = b :: bytes := by
  refine List.exists_cons_of_ne_nil fun hnil => ?_
  have hlength := congrArg List.length hnil
  rw [String.length_utf8EncodeChar, List.length_nil] at hlength
  exact absurd hlength (Nat.ne_of_gt c.utf8Size_pos)

theorem toNat_ofNat_of_valid {n : Nat} (valid : n.isValidChar) : (Char.ofNat n).toNat = n := by
  rw [Char.ofNat, dif_pos valid]
  rfl

/-- A text whose bytes begin with one below 128 begins with its character. -/
theorem exists_of_encode_eq_cons {text : Text} {b : UInt8} {rest : Bytes} (ascii : b.toNat < 128)
    (h : encode text = b :: rest) :
    ∃ others, text = Char.ofNat b.toNat :: others ∧ encode others = rest := by
  cases text with
  | nil => cases h
  | cons c others =>
    obtain ⟨first, bytes, hc⟩ := exists_utf8EncodeChar_eq_cons c
    have hfirst : first = b := by
      rw [encode_cons, hc] at h
      exact (List.cons.inj h).1
    have hchar : c = Char.ofNat b.toNat :=
      eq_of_mem_utf8EncodeChar ascii (hc ▸ hfirst ▸ List.mem_cons_self)
    have hcode : c.toNat = b.toNat := by
      rw [hchar]
      exact toNat_ofNat_of_valid (Or.inl (by omega))
    rw [encode_cons_ascii (by omega)] at h
    exact ⟨others, by rw [hchar], (List.cons.inj h).2⟩

/-- The next byte of an open sequence, if it has one, is a continuation byte. -/
def Proper (state : Option Pending) : Prop :=
  ∀ p ∈ state, 128 ≤ p.low ∧ p.high ≤ 191

theorem proper_none : Proper none :=
  fun _ hp => by cases hp

theorem lead_proper {b : UInt8} {p : Pending} (h : lead b = .opening p) : Proper (some p) := by
  rintro _ ⟨⟩
  simp only [lead] at h
  split at h
  · cases h
  · split at h
    · cases h
    · split at h
      · cases h
        exact ⟨Nat.le_refl _, Nat.le_refl _⟩
      · split at h
        · cases h
          constructor <;> dsimp only <;> split <;> omega
        · split at h
          · cases h
            constructor <;> dsimp only <;> split <;> omega
          · cases h

theorem start_proper (b : UInt8) : Proper (start b).1 := by
  rw [start]
  cases hb : lead b with
  | char c => exact proper_none
  | opening p => exact lead_proper hb
  | stray => exact proper_none

theorem step_proper (state : Option Pending) (b : UInt8) : Proper (step state b).1 := by
  cases state with
  | none => exact start_proper b
  | some p =>
    simp only [step]
    split
    · split
      · exact proper_none
      · rintro _ ⟨⟩
        exact ⟨Nat.le_refl _, Nat.le_refl _⟩
    · exact start_proper b

theorem start_ascii {b : UInt8} (ascii : b.toNat < 128) :
    start b = (none, [some (Char.ofNat b.toNat)]) := by
  simp [start, lead, ascii]

/-- An ASCII byte ends what stands before it, and reading starts afresh behind it. -/
theorem unitsFrom_append_ascii {b : UInt8} (ascii : b.toNat < 128) {state : Option Pending}
    (proper : Proper state) (bytes rest : Bytes) :
    unitsFrom state (bytes ++ b :: rest) =
      unitsFrom state bytes ++ some (Char.ofNat b.toNat) :: unitsFrom none rest := by
  induction bytes generalizing state with
  | nil =>
    cases state with
    | none => simp [unitsFrom, step, start_ascii ascii]
    | some p =>
      have hlow := (proper p rfl).1
      have hclosed : ¬ (p.low ≤ b.toNat ∧ b.toNat ≤ p.high) := by omega
      simp [unitsFrom, step, hclosed, start_ascii ascii]
  | cons first bytes ih =>
    rw [List.cons_append, unitsFrom, unitsFrom, ih (step_proper state first), List.append_assoc]

theorem decodeLossy_append_ascii {b : UInt8} (ascii : b.toNat < 128) (bytes rest : Bytes) :
    decodeLossy (bytes ++ b :: rest) =
      decodeLossy bytes ++ Char.ofNat b.toNat :: decodeLossy rest := by
  rw [decodeLossy, units, unitsFrom_append_ascii ascii proper_none, List.map_append]
  rfl

/-- A continuation byte completes an open sequence, or leaves it open. -/
theorem step_within {p : Pending} {b : UInt8} (within : p.low ≤ b.toNat ∧ b.toNat ≤ p.high) :
    (∃ c, step (some p) b = (none, [some c])) ∨ ∃ q, step (some p) b = (some q, []) := by
  simp only [step, if_pos within]
  split
  · exact Or.inl ⟨_, rfl⟩
  · exact Or.inr ⟨_, rfl⟩

/-- A sequence left open makes one gap more at most. -/
theorem length_unitsFrom_le {p : Pending} (proper : Proper (some p)) (bytes : Bytes) :
    (unitsFrom (some p) bytes).length ≤ 1 + (unitsFrom none bytes).length := by
  induction bytes generalizing p with
  | nil => exact Nat.le_refl 1
  | cons b bytes ih =>
    -- A continuation byte would be a gap of its own if nothing were open.
    obtain ⟨hlow, hhigh⟩ := proper p rfl
    by_cases hwithin : p.low ≤ b.toNat ∧ b.toNat ≤ p.high
    · have hlead : lead b = .stray := by
        simp only [lead]
        rw [if_neg (by omega), if_pos (by omega)]
      have hafresh : unitsFrom none (b :: bytes) = none :: unitsFrom none bytes := by
        simp [unitsFrom, step, start, hlead]
      have hproper := step_proper (some p) b
      rw [unitsFrom, hafresh, List.length_append, List.length_cons]
      rcases step_within hwithin with ⟨c, hstep⟩ | ⟨q, hstep⟩
      · simp only [hstep, List.length_singleton]
        omega
      · rw [hstep] at hproper
        have hrest := ih hproper
        simp only [hstep, List.length_nil]
        omega
    · have hgap : unitsFrom (some p) (b :: bytes) = none :: unitsFrom none (b :: bytes) := by
        simp [unitsFrom, step, hwithin]
      rw [hgap, List.length_cons]
      omega

/-- A byte makes one character more at most. -/
theorem length_decodeLossy_cons_le (b : UInt8) (bytes : Bytes) :
    (decodeLossy (b :: bytes)).length ≤ 1 + (decodeLossy bytes).length := by
  simp only [decodeLossy, units, List.length_map]
  rw [unitsFrom, List.length_append, step, start]
  cases hb : lead b with
  | char c => exact Nat.le_refl _
  | opening p =>
    have hopen := length_unitsFrom_le (lead_proper hb) bytes
    simp only [List.length_nil]
    omega
  | stray => exact Nat.le_refl _

end IndexSearch.Utf8
