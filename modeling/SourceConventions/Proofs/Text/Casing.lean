import SourceConventions.Text.Casing

/-!
# Words of plain small letters

A text has a word of the letters from `a` to `z` other than `k` as its small form exactly if it is
the word with some of its letters capital: of the characters that are no such letters, only the
sign for kelvins becomes one, a `k`.
-/

namespace SourceConventions.Text

/-- A letter that only letters of the same alphabet become when made small. -/
structure IsPlainLetter (l : Char) : Prop where
  low : 0x61 ≤ l.toNat
  high : l.toNat ≤ 0x7a
  ne : l ≠ 'k'

instance : DecidablePred IsPlainLetter := fun l =>
  decidable_of_iff (0x61 ≤ l.toNat ∧ l.toNat ≤ 0x7a ∧ l ≠ 'k')
    ⟨fun ⟨low, high, ne⟩ => ⟨low, high, ne⟩, fun h => ⟨h.low, h.high, h.ne⟩⟩

theorem toNat_toLower (c : Char) :
    c.toLower.toNat = if 0x41 ≤ c.toNat ∧ c.toNat ≤ 0x5a then c.toNat + 0x20 else c.toNat := by
  unfold Char.toLower
  simp only [ge_iff_le, UInt32.le_iff_toNat_le]
  split
  next h =>
    have hlow : 0x41 ≤ c.toNat := h.1
    have hhigh : c.toNat ≤ 0x5a := h.2
    rw [if_pos ⟨hlow, hhigh⟩]
    change (c.val + 0x20).toNat = c.val.toNat + 0x20
    rw [UInt32.toNat_add]
    exact Nat.mod_eq_of_lt (Nat.lt_of_le_of_lt (Nat.add_le_add_right hhigh 0x20) (by decide))
  next h => exact (if_neg h).symm

theorem toNat_ofNat_eq_or (n : Nat) : (Char.ofNat n).toNat = n ∨ (Char.ofNat n).toNat = 0 := by
  by_cases h : n.isValidChar
  · exact .inl (by rw [Char.ofNat, dif_pos h]; rfl)
  · exact .inr (by rw [Char.ofNat, dif_neg h]; rfl)

theorem toNat_ofNat_of_lt {n : Nat} (h : n < 0xd800) : (Char.ofNat n).toNat = n := by
  unfold Char.ofNat
  rw [dif_pos (.inl h)]
  rfl

/-- No letters but those from `A` to `Z` have a letter from `a` to `z` as their small form, one
aside. -/
theorem smallForms_rows : ∀ row ∈ smallForms, row = (0x41, 0x5a, 1, 0x61) ∨
    0xc0 ≤ row.1 ∧ (0x7b ≤ row.2.2.2 ∨ row.1 = row.2.1 ∧ row.2.2.2 = 0x6b) := by
  decide +kernel

theorem smallForm_eq_or (c : Char) : smallForm c = c.toLower ∨
    0xc0 ≤ c.toNat ∧ ∃ n, smallForm c = Char.ofNat n ∧ (0x7b ≤ n ∨ n = 0x6b) := by
  rw [smallForm]
  split
  next first last step small hfound =>
    have hrow := List.find?_some hfound
    simp only [Bool.and_eq_true, decide_eq_true_eq] at hrow
    obtain ⟨⟨hfirst, hlast⟩, -⟩ := hrow
    obtain heq | ⟨hrow, hsmall⟩ := smallForms_rows _ (List.mem_of_find?_eq_some hfound)
    · cases heq
      left
      rw [← Char.toNat_inj, toNat_toLower, if_pos ⟨hfirst, hlast⟩, toNat_ofNat_of_lt (by omega)]
      omega
    · refine .inr ⟨Nat.le_trans hrow hfirst, _, rfl, ?_⟩
      dsimp only at hsmall
      omega
  next hnone =>
    left
    have hcapital := List.find?_eq_none.mp hnone (0x41, 0x5a, 1, 0x61) List.mem_cons_self
    simp only [Nat.mod_one, beq_self_eq_true, Bool.and_true, Bool.and_eq_true,
      decide_eq_true_eq] at hcapital
    rw [← Char.toNat_inj, toNat_toLower, if_neg hcapital]

theorem smallForm_eq_iff {c l : Char} (hl : IsPlainLetter l) : smallForm c = l ↔ c.toLower = l := by
  obtain h | ⟨hc, n, hn, hor⟩ := smallForm_eq_or c
  · rw [h]
  · have hlow := hl.low
    have hhigh := hl.high
    have hk : l.toNat ≠ 0x6b := fun h => hl.ne (Char.toNat_inj.mp h)
    rw [hn, ← Char.toNat_inj, ← Char.toNat_inj, toNat_toLower, if_neg (by omega)]
    obtain hvalue | hvalue := toNat_ofNat_eq_or n <;> rw [hvalue] <;> omega

theorem not_isPlainLetter {l : Char} (h : 0x7a < l.toNat) : ¬ IsPlainLetter l :=
  fun hl => Nat.not_le_of_lt h hl.high

theorem loweredFrom_eq_iff {before cs word : List Char} (hword : ∀ l ∈ word, IsPlainLetter l) :
    loweredFrom before cs = word ↔ cs.map Char.toLower = word := by
  induction cs generalizing before word with
  | nil => rfl
  | cons c rest ih =>
    rw [loweredFrom, List.map_cons]
    by_cases hdotted : c = 'İ'
    · subst hdotted
      exact iff_of_false (fun h => not_isPlainLetter (by decide) (hword '\u0307' (by simp [← h])))
        fun h => not_isPlainLetter (by decide) (hword _ (h ▸ List.mem_cons_self))
    by_cases hsigma : c = 'Σ'
    · subst hsigma
      refine iff_of_false (fun h => ?_)
        fun h => not_isPlainLetter (by decide) (hword _ (h ▸ List.mem_cons_self))
      rw [if_neg hdotted, if_pos rfl, List.singleton_append] at h
      have hplain := hword _ (h ▸ List.mem_cons_self)
      split at hplain <;> exact not_isPlainLetter (by decide) hplain
    rw [if_neg hdotted, if_neg hsigma, List.singleton_append]
    cases word with
    | nil => simp
    | cons l word =>
      obtain ⟨hl, hword⟩ := List.forall_mem_cons.mp hword
      rw [List.cons.injEq, List.cons.injEq, smallForm_eq_iff hl, ih hword]

/-- A text whose small form is a word of plain letters is the word but for the case of letters. -/
theorem lowered_eq_iff {s word : String} (hword : ∀ l ∈ word.toList, IsPlainLetter l) :
    lowered s = word ↔ s.toList.map Char.toLower = word.toList := by
  rw [← String.toList_inj, lowered, String.toList_ofList, loweredFrom_eq_iff hword]

end SourceConventions.Text
