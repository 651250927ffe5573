import IndexSearch.Search.Hit

/-!
# The order of hits

Hits ascend by the bytes of their names and, under one name, by rank. The order is linear, so the
hits that a search sorts have one ascending arrangement only.
-/

namespace IndexSearch.Hit

/-- A hit precedes another if the bytes of its name come first, or the names are the same and its
rank is not greater. -/
def Precedes (a b : Hit) : Prop :=
  Utf8.encode a.name < Utf8.encode b.name ∨ a.name = b.name ∧ a.rank ≤ b.rank

theorem bytesLe_iff (as bs : Bytes) : bytesLe as bs = true ↔ as < bs ∨ as = bs := by
  induction as generalizing bs with
  | nil => cases bs <;> simp [bytesLe]
  | cons a as ih =>
    cases bs with
    | nil => simp [bytesLe]
    | cons b bs =>
      rw [List.cons_lt_cons_iff, UInt8.lt_iff_toNat_lt, bytesLe]
      by_cases hlt : a.toNat < b.toNat
      · simp [hlt]
      · by_cases hgt : b.toNat < a.toNat
        · have hne : a ≠ b := by rintro rfl; exact hlt hgt
          simp [hlt, hgt, hne]
        · have heq : a = b := UInt8.toNat.inj (by omega)
          simp [heq, ih]

theorem le_iff (a b : Hit) : a.le b = true ↔ a.Precedes b := by
  by_cases hname : a.name = b.name
  · simp [le, Precedes, hname, List.lt_irrefl, UInt64.le_iff_toNat_le]
  · have hbytes : Utf8.encode a.name ≠ Utf8.encode b.name :=
      fun heq => hname (Utf8.encode_injective heq)
    simp [le, Precedes, hname, hbytes, bytesLe_iff]

theorem precedes_trans {a b c : Hit} (hab : a.Precedes b) (hbc : b.Precedes c) :
    a.Precedes c := by
  rcases hab with hab | ⟨hab, rankab⟩
  · rcases hbc with hbc | ⟨hbc, _⟩
    · exact Or.inl (List.lt_trans hab hbc)
    · exact Or.inl (hbc ▸ hab)
  · rcases hbc with hbc | ⟨hbc, rankbc⟩
    · exact Or.inl (hab ▸ hbc)
    · exact Or.inr ⟨hab.trans hbc, UInt64.le_trans rankab rankbc⟩

theorem precedes_total (a b : Hit) : a.Precedes b ∨ b.Precedes a := by
  rcases Std.lt_trichotomy (Utf8.encode a.name) (Utf8.encode b.name) with hlt | heq | hgt
  · exact Or.inl (Or.inl hlt)
  · have hname := Utf8.encode_injective heq
    rcases UInt64.le_total a.rank b.rank with hle | hle
    · exact Or.inl (Or.inr ⟨hname, hle⟩)
    · exact Or.inr (Or.inr ⟨hname.symm, hle⟩)
  · exact Or.inr (Or.inl hgt)

theorem precedes_antisymm {a b : Hit} (hab : a.Precedes b) (hba : b.Precedes a) : a = b := by
  rcases hab with hab | ⟨hname, rankab⟩
  · rcases hba with hba | ⟨hname, _⟩
    · exact False.elim (List.lt_asymm hab hba)
    · exact False.elim (List.lt_irrefl _ (hname ▸ hab))
  · rcases hba with hba | ⟨_, rankba⟩
    · exact False.elim (List.lt_irrefl _ (hname ▸ hba))
    · have hrank : a.rank = b.rank := UInt64.le_antisymm rankab rankba
      cases a
      cases b
      simp_all

theorem le_trans (a b c : Hit) (hab : a.le b = true) (hbc : b.le c = true) : a.le c = true :=
  (le_iff a c).mpr (precedes_trans ((le_iff a b).mp hab) ((le_iff b c).mp hbc))

theorem le_total (a b : Hit) : (a.le b || b.le a) = true := by
  rw [Bool.or_eq_true, le_iff, le_iff]
  exact precedes_total a b

theorem pairwise_le_iff {hits : List Hit} :
    (hits.Pairwise fun a b => a.le b = true) ↔ hits.Pairwise Precedes :=
  List.Pairwise.iff fun {a b} => le_iff a b

theorem sort_ascends (hits : List Hit) : (sort hits).Pairwise Precedes := by
  apply pairwise_le_iff.mp
  exact List.pairwise_mergeSort le_trans le_total hits

theorem sort_perm (hits : List Hit) : (sort hits).Perm hits :=
  List.mergeSort_perm hits le

/-- Only one arrangement of given hits ascends. -/
theorem ascending_unique {hits others : List Hit} (hascends : hits.Pairwise Precedes)
    (oascends : others.Pairwise Precedes) (perm : hits.Perm others) : hits = others :=
  List.Perm.eq_of_pairwise (fun _ _ _ _ => precedes_antisymm) hascends oascends perm

end IndexSearch.Hit
