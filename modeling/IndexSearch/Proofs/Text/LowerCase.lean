import IndexSearch.Proofs.Text.Encoding
import IndexSearch.Proofs.Text.Words
import Mathlib.Data.List.Basic

/-!
# Lower case and trimming

A text in lower case is its own lower case: whatever lower-casing makes of a character is left alone
wherever it stands. A final sigma is one of these characters, so what is around it need not be
looked at again. Lower-casing neither makes white space nor removes it, so a trimmed text stays
trimmed. Both facts together are what makes a name in normal form its own normal form.

What is needed of single code points is read off the table for whole runs, not for each image.
-/

namespace IndexSearch

namespace CodePoint

variable {run other : Run} {n m k : Nat}

def Run.lastImage (run : Run) : Nat :=
  run.image + (run.last - run.first)

/-- The images of a run are all less or all greater than a number. -/
def Run.Avoids (run : Run) (n : Nat) : Prop :=
  n < run.image ∨ run.lastImage < n

instance (run : Run) (n : Nat) : Decidable (run.Avoids n) :=
  inferInstanceAs (Decidable (_ ∨ _))

/-- Whether the images of a run lie to one side of another run, or fall between its code points. -/
def Run.clearOf (run other : Run) : Bool :=
  run.lastImage.blt other.first || other.last.blt run.image ||
    (other.step == 2 && (run.step == 2 || run.first == run.last)) &&
      run.image % 2 != other.first % 2

theorem Run.bounds_of_image? (h : run.image? n = some m) :
    run.image ≤ m ∧ m ≤ run.lastImage ∧ (m - run.image) % run.step = 0 := by
  rw [Run.image?] at h
  split at h
  · rename_i hwithin
    obtain ⟨hfirst, hlast, hstep⟩ := hwithin
    cases h
    refine ⟨by omega, ?_, ?_⟩
    · unfold Run.lastImage
      omega
    · rwa [Nat.add_sub_cancel_left]
  · cases h

theorem Run.ne_of_avoids (avoids : run.Avoids k) (h : run.image? n = some m) : m ≠ k := by
  obtain ⟨hlow, hhigh, -⟩ := Run.bounds_of_image? h
  rcases avoids with below | above <;> omega

theorem Run.image?_of_clearOf (clear : run.clearOf other = true) (h : run.image? n = some m) :
    other.image? m = none := by
  obtain ⟨hlow, hhigh, hstep⟩ := Run.bounds_of_image? h
  simp only [Run.clearOf, Bool.or_eq_true, Bool.and_eq_true, Nat.blt_eq, beq_iff_eq,
    bne_iff_ne] at clear
  have houtside : ¬ (other.first ≤ m ∧ m ≤ other.last ∧ (m - other.first) % other.step = 0) := by
    rintro ⟨hfirst, hlast, hon⟩
    rcases clear with (below | above) | ⟨⟨hother, hrun⟩, hparity⟩
    · omega
    · omega
    · -- The other run has every second code point, and the images are on the others.
      rw [hother] at hon
      rcases hrun with hrun | hrun
      · rw [hrun] at hstep
        omega
      · unfold Run.lastImage at hhigh
        omega
  rw [Run.image?, if_neg houtside]

end CodePoint

namespace Text

open CodePoint

variable {n m : Nat} {c d : Char} {before after : Text}

theorem lowerRuns_clear :
    ∀ run ∈ CaseTable.lowerRuns, CaseTable.lowerRuns.all run.clearOf = true := by
  decide +kernel

theorem lowerRuns_avoid :
    ∀ run ∈ CaseTable.lowerRuns, ∀ n ∈ 'Σ'.toNat :: 'İ'.toNat :: blankCodes, run.Avoids n := by
  decide +kernel

theorem lowerRuns_valid : ∀ run ∈ CaseTable.lowerRuns,
    run.lastImage < 0xD800 ∨ 0xDFFF < run.image ∧ run.lastImage < 0x110000 := by
  decide +kernel

theorem exists_run_of_lowerCode? (h : lowerCode? n = some m) :
    ∃ run ∈ CaseTable.lowerRuns, run.image? n = some m :=
  List.exists_of_findSome?_eq_some h

/-- The image of a code point has none itself. -/
theorem lowerCode?_of_lowerCode? (h : lowerCode? n = some m) : lowerCode? m = none := by
  obtain ⟨run, hrun, himage⟩ := exists_run_of_lowerCode? h
  apply List.findSome?_eq_none_iff.mpr
  intro other hother
  have hclear := List.all_eq_true.mp (lowerRuns_clear run hrun) other hother
  exact Run.image?_of_clearOf hclear himage

theorem toNat_of_lowerCode? (h : lowerCode? n = some m) : (Char.ofNat m).toNat = m := by
  obtain ⟨run, hrun, himage⟩ := exists_run_of_lowerCode? h
  obtain ⟨hlow, hhigh, -⟩ := Run.bounds_of_image? himage
  have hvalid : m.isValidChar := by
    rcases lowerRuns_valid run hrun with hsmall | ⟨hlarge, hmax⟩
    · exact Or.inl (by omega)
    · exact Or.inr ⟨by omega, by omega⟩
  exact Utf8.toNat_ofNat_of_valid hvalid

theorem ne_of_lowerCode? (h : lowerCode? n = some m) {k : Nat}
    (hk : k ∈ 'Σ'.toNat :: 'İ'.toNat :: blankCodes) : m ≠ k := by
  obtain ⟨run, hrun, himage⟩ := exists_run_of_lowerCode? h
  exact Run.ne_of_avoids (lowerRuns_avoid run hrun k hk) himage

/-- A character that lower-casing leaves alone wherever it stands. -/
def IsSettled (c : Char) : Prop :=
  c ≠ 'Σ' ∧ c ≠ 'İ' ∧ lowerCode? c.toNat = none

instance (c : Char) : Decidable (IsSettled c) :=
  inferInstanceAs (Decidable (_ ∧ _ ∧ _))

theorem lowerChar_of_isSettled (h : IsSettled c) (before after : Text) :
    lowerChar before c after = [c] := by
  obtain ⟨hsigma, hdotted, hcode⟩ := h
  rw [lowerChar, if_neg hsigma, if_neg hdotted, hcode]

/-- What becomes of a character: a sigma in small, a dotted `i`, its image, or itself. -/
theorem lowerChar_cases (before : Text) (c : Char) (after : Text) :
    lowerChar before c after = ['ς'] ∨ lowerChar before c after = ['σ'] ∨
      lowerChar before c after = ['i', '\u0307'] ∨
      (∃ n, lowerCode? c.toNat = some n ∧ lowerChar before c after = [Char.ofNat n]) ∨
      IsSettled c ∧ lowerChar before c after = [c] := by
  by_cases hsigma : c = 'Σ'
  · rw [lowerChar, if_pos hsigma]
    split
    · exact Or.inl rfl
    · exact Or.inr (Or.inl rfl)
  by_cases hdotted : c = 'İ'
  · rw [lowerChar, if_neg hsigma, if_pos hdotted]
    exact Or.inr (Or.inr (Or.inl rfl))
  cases hcode : lowerCode? c.toNat with
  | some n =>
    rw [lowerChar, if_neg hsigma, if_neg hdotted, hcode]
    exact Or.inr (Or.inr (Or.inr (Or.inl ⟨n, rfl, rfl⟩)))
  | none =>
    have hsettled : IsSettled c := ⟨hsigma, hdotted, hcode⟩
    exact Or.inr (Or.inr (Or.inr (Or.inr ⟨hsettled, lowerChar_of_isSettled hsettled _ _⟩)))

theorem isSettled_of_lowerCode? (h : lowerCode? n = some m) : IsSettled (Char.ofNat m) := by
  have hnat := toNat_of_lowerCode? h
  refine ⟨?_, ?_, ?_⟩
  · rintro heq
    exact ne_of_lowerCode? h List.mem_cons_self (by rw [← hnat, heq])
  · rintro heq
    exact ne_of_lowerCode? h (List.mem_cons_of_mem _ List.mem_cons_self) (by rw [← hnat, heq])
  · rw [hnat]
    exact lowerCode?_of_lowerCode? h

theorem isSettled_of_mem_lowerChar (h : d ∈ lowerChar before c after) : IsSettled d := by
  rcases lowerChar_cases before c after with hc | hc | hc | ⟨n, hn, hc⟩ | ⟨hsettled, hc⟩ <;>
    rw [hc] at h
  · obtain rfl := List.mem_singleton.mp h
    decide +kernel
  · obtain rfl := List.mem_singleton.mp h
    decide +kernel
  · rcases List.mem_pair.mp h with rfl | rfl <;> decide +kernel
  · obtain rfl := List.mem_singleton.mp h
    exact isSettled_of_lowerCode? hn
  · obtain rfl := List.mem_singleton.mp h
    exact hsettled

theorem isSettled_of_mem_lowerAfter {text : Text} (h : d ∈ lowerAfter before text) :
    IsSettled d := by
  induction text generalizing before with
  | nil => cases h
  | cons c text ih =>
    rcases List.mem_append.mp h with hfirst | hrest
    · exact isSettled_of_mem_lowerChar hfirst
    · exact ih hrest

theorem lowerAfter_of_isSettled {text : Text} (h : ∀ c ∈ text, IsSettled c) (before : Text) :
    lowerAfter before text = text := by
  induction text generalizing before with
  | nil => rfl
  | cons c text ih =>
    obtain ⟨hfirst, hrest⟩ := List.forall_mem_cons.mp h
    rw [lowerAfter, lowerChar_of_isSettled hfirst, ih hrest]
    rfl

theorem lower_lower (text : Text) : lower (lower text) = lower text :=
  lowerAfter_of_isSettled (fun _ h => isSettled_of_mem_lowerAfter h) []

theorem isBlank_of_lowerCode? (h : lowerCode? n = some m) : isBlank (Char.ofNat m) = false := by
  by_contra hblank
  have hcode := mem_blankCodes (eq_true_of_ne_false hblank)
  rw [toNat_of_lowerCode? h] at hcode
  exact ne_of_lowerCode? h (List.mem_cons_of_mem _ (List.mem_cons_of_mem _ hcode)) rfl

/-- White space stays white space, and nothing else becomes any. -/
theorem isBlank_of_mem_lowerChar (h : d ∈ lowerChar before c after) : isBlank d = isBlank c := by
  cases hblank : isBlank c with
  | true =>
    rw [lowerChar_blank hblank, List.mem_singleton] at h
    rw [h, hblank]
  | false =>
    rcases lowerChar_cases before c after with hc | hc | hc | ⟨n, hn, hc⟩ | ⟨-, hc⟩ <;>
      rw [hc] at h
    · obtain rfl := List.mem_singleton.mp h
      decide
    · obtain rfl := List.mem_singleton.mp h
      decide
    · rcases List.mem_pair.mp h with rfl | rfl <;> decide
    · obtain rfl := List.mem_singleton.mp h
      exact isBlank_of_lowerCode? hn
    · obtain rfl := List.mem_singleton.mp h
      exact hblank

theorem exists_of_mem_lowerAfter {text : Text} (h : d ∈ lowerAfter before text) :
    ∃ c ∈ text, isBlank d = isBlank c := by
  induction text generalizing before with
  | nil => cases h
  | cons c text ih =>
    rcases List.mem_append.mp h with hfirst | hrest
    · exact ⟨c, List.mem_cons_self, isBlank_of_mem_lowerChar hfirst⟩
    · obtain ⟨other, hother, hblank⟩ := ih hrest
      exact ⟨other, List.mem_cons_of_mem _ hother, hblank⟩

theorem lowerChar_ne_nil (before : Text) (c : Char) (after : Text) :
    lowerChar before c after ≠ [] := by
  rcases lowerChar_cases before c after with hc | hc | hc | ⟨n, -, hc⟩ | ⟨-, hc⟩ <;>
    rw [hc] <;> exact List.cons_ne_nil _ _

theorem lowerAfter_ne_nil {text : Text} (h : text ≠ []) (before : Text) :
    lowerAfter before text ≠ [] := by
  cases text with
  | nil => exact absurd rfl h
  | cons c text => exact List.append_ne_nil_of_left_ne_nil (lowerChar_ne_nil _ _ _) _

/-- The first character of a text decides what its lower case begins with. -/
theorem exists_of_mem_head?_lowerAfter {text : Text} (h : d ∈ (lowerAfter before text).head?) :
    ∃ c ∈ text.head?, isBlank d = isBlank c := by
  cases text with
  | nil => cases h
  | cons c text =>
    rw [lowerAfter, List.head?_append_of_ne_nil _ (lowerChar_ne_nil _ _ _)] at h
    exact ⟨c, rfl, isBlank_of_mem_lowerChar (List.mem_of_mem_head? h)⟩

/-- The last character of a text decides what its lower case ends with. -/
theorem exists_of_mem_getLast?_lowerAfter {text : Text}
    (h : d ∈ (lowerAfter before text).getLast?) : ∃ c ∈ text.getLast?, isBlank d = isBlank c := by
  induction text generalizing before with
  | nil => cases h
  | cons c text ih =>
    by_cases hrest : text = []
    · subst hrest
      rw [lowerAfter, lowerAfter, List.append_nil] at h
      exact ⟨c, rfl, isBlank_of_mem_lowerChar (List.mem_of_mem_getLast? h)⟩
    · rw [lowerAfter, List.getLast?_append_of_ne_nil _ (lowerAfter_ne_nil hrest _)] at h
      obtain ⟨last, hlast, hblank⟩ := ih h
      refine ⟨last, ?_, hblank⟩
      rw [List.getLast?_cons_of_ne_nil hrest]
      exact hlast

def IsTrimmed (text : Text) : Prop :=
  (∀ c ∈ text.head?, isBlank c = false) ∧ ∀ c ∈ text.getLast?, isBlank c = false

theorem dropWhile_of_head? {text : Text} (h : ∀ c ∈ text.head?, isBlank c = false) :
    text.dropWhile isBlank = text := by
  cases text with
  | nil => rfl
  | cons c text => rw [List.dropWhile_cons_of_neg (by simp [h c rfl])]

theorem trim_of_isTrimmed {text : Text} (h : IsTrimmed text) : trim text = text := by
  obtain ⟨hfirst, hlast⟩ := h
  rw [← List.head?_reverse] at hlast
  rw [trim, dropWhile_of_head? hfirst, trimRight, dropWhile_of_head? hlast, List.reverse_reverse]

theorem isBlank_of_mem_head?_dropWhile {text : Text} (h : c ∈ (text.dropWhile isBlank).head?) :
    isBlank c = false := by
  have hstop := List.head?_dropWhile_not isBlank text
  rw [Option.mem_def.mp h] at hstop
  exact hstop

theorem isTrimmed_trim (text : Text) : IsTrimmed (trim text) := by
  constructor
  · intro c h
    -- Cutting at the end leaves the first character, if any is left.
    have hprefix : trim text <+: text.dropWhile isBlank := by
      rw [trim, trimRight, ← List.reverse_suffix, List.reverse_reverse]
      exact List.dropWhile_suffix isBlank
    obtain ⟨rest, hrest⟩ := hprefix
    have hhead : c ∈ (text.dropWhile isBlank).head? := by
      rw [← hrest, List.head?_append, h]
      rfl
    exact isBlank_of_mem_head?_dropWhile hhead
  · intro c h
    rw [trim, trimRight, List.getLast?_reverse] at h
    exact isBlank_of_mem_head?_dropWhile h

theorem IsTrimmed.lower {text : Text} (h : IsTrimmed text) : IsTrimmed (lower text) := by
  constructor
  · intro d hd
    obtain ⟨c, hc, hblank⟩ := exists_of_mem_head?_lowerAfter hd
    exact hblank.trans (h.1 c hc)
  · intro d hd
    obtain ⟨c, hc, hblank⟩ := exists_of_mem_getLast?_lowerAfter hd
    exact hblank.trans (h.2 c hc)

end Text

end IndexSearch
