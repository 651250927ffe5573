import IndexSearch.Text.Numeral

/-!
# Decimal numerals

A numeral consists of decimal digits, is not empty, and reads back as the number that it was
written for.
-/

namespace IndexSearch.Numeral

theorem digit_toNat {n : Nat} (h : n < 10) : (digit n).toNat = 48 + n := by
  have hvalid : (48 + n).isValidChar := Or.inl (by omega)
  rw [digit, Char.ofNat, dif_pos hvalid]
  rfl

theorem digitValue?_digit {n : Nat} (h : n < 10) : digitValue? 10 (digit n) = some n := by
  have hdecimal : 48 ≤ 48 + n ∧ 48 + n ≤ 57 := by omega
  simp only [digitValue?, digit_toNat h, if_pos hdecimal, Nat.add_sub_cancel_left]
  rw [if_pos (by omega)]

theorem isDigit_of_mem_render {n : Nat} {c : Char} (h : c ∈ render n) :
    48 ≤ c.toNat ∧ c.toNat ≤ 57 := by
  fun_induction render n with
  | case1 n small =>
    rw [List.mem_singleton.mp h, digit_toNat small]
    omega
  | case2 n _ ih =>
    rcases List.mem_append.mp h with hmem | hmem
    · exact ih hmem
    · rw [List.mem_singleton.mp hmem, digit_toNat (by omega)]
      omega

theorem not_mem_render (n : Nat) {c : Char} (h : ¬ (48 ≤ c.toNat ∧ c.toNat ≤ 57)) :
    c ∉ render n :=
  fun hmem => h (isDigit_of_mem_render hmem)

theorem render_ne_nil (n : Nat) : render n ≠ [] := by
  rw [render]
  split
  · exact List.cons_ne_nil _ _
  · exact List.append_ne_nil_of_right_ne_nil _ (List.cons_ne_nil _ _)

theorem parse?_render (n : Nat) : parse? 10 (render n) = some n := by
  have hfold : (render n).foldlM
      (fun value c => (digitValue? 10 c).map (value * 10 + ·)) 0 = some n := by
    fun_induction render n with
    | case1 n small => simp [digitValue?_digit small]
    | case2 n large ih =>
      have hlast : n % 10 < 10 := by omega
      simp only [List.foldlM_append, ih, Option.bind_eq_bind, Option.bind_some,
        List.foldlM_cons, List.foldlM_nil, digitValue?_digit hlast, Option.map_some]
      exact congrArg some (by omega)
  rw [parse?, if_neg (by simpa using render_ne_nil n), hfold]

end IndexSearch.Numeral
