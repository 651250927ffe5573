import IndexSearch.Proofs.Url.Spelling
import IndexSearch.Url.Form
import Mathlib.Data.List.TakeDrop

/-!
# Form values

A form writes a text as the bytes of its UTF-8, of which letters and digits stand for themselves and
every other one has a percent form; a space may be a plus sign instead. Hexadecimal digits may be
in either case. Whatever the choices, reading gives the text back.
-/

namespace IndexSearch.Form

theorem byte_ne_plus {c : Char} (alphanumeric : c.isAlphanum = true) : UInt8.ofNat c.toNat ≠ 43 := by
  have hplus : UInt8.ofNat c.toNat ≠ UInt8.ofNat '+'.toNat :=
    byte_ne_of_isAlphanum alphanumeric (by decide) (by decide)
  exact hplus

/-- Letters and digits stand for themselves, and a plus sign for a space. -/
def alphabet : Percent.Alphabet where
  isPlain c := c.isAlphanum || c == '+'
  read b := if b = 43 then 32 else b
  ascii := by
    intro c h
    rw [Bool.or_eq_true, beq_iff_eq] at h
    rcases h with halnum | rfl
    · exact ascii_of_isAlphanum halnum
    · decide
  signless := by
    intro c h
    rw [Bool.or_eq_true, beq_iff_eq] at h
    rcases h with halnum | rfl
    · have hsign : UInt8.ofNat c.toNat ≠ UInt8.ofNat '%'.toNat :=
        byte_ne_of_isAlphanum halnum (by decide) (by decide)
      rw [if_neg (byte_ne_plus halnum)]
      exact hsign
    · decide
  read_sign := rfl
  read_digit halnum := if_neg (byte_ne_plus halnum)

end IndexSearch.Form
