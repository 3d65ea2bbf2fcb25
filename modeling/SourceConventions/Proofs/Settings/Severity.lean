import SourceConventions.Proofs.Text.Casing
import SourceConventions.Settings.OfTable

/-!
# Values that name a severity

Only a text names a severity, the case of its letters aside: what any other value looks like has a
character that is no letter or is another word.
-/

namespace SourceConventions

open Text Number

namespace Severity

theorem isPlainLetter_of_mem_name {v : Severity} : ∀ l ∈ v.name.toList, IsPlainLetter l := by
  have hall : v.name.toList.all (decide <| IsPlainLetter ·) = true := by cases v <;> decide
  exact fun l hl => of_decide_eq_true (List.all_eq_true.mp hall l hl)

theorem ofName?_eq_some_iff {s : String} {v : Severity} : ofName? s = some v ↔ s = v.name := by
  constructor
  · intro h
    have hname := List.find?_some h
    exact (beq_iff_eq.mp hname).symm
  · rintro rfl
    exact ofName?_name v

/-- That a text is the name of a severity, the case of letters aside. -/
def Spells (v : Severity) (s : String) : Prop := s.toList.map Char.toLower = v.name.toList

instance (v : Severity) (s : String) : Decidable (v.Spells s) :=
  inferInstanceAs (Decidable (_ = _))

theorem ofText?_eq_some_iff {s : String} {v : Severity} : ofText? s = some v ↔ v.Spells s := by
  rw [ofText?, ofName?_eq_some_iff, lowered_eq_iff isPlainLetter_of_mem_name, Spells]

/-- The name of a severity has letters only. -/
theorem not_spells_of_mem {s : String} {c : Char} (hc : c ∈ s.toList)
    (h : ¬ IsPlainLetter c.toLower) (v : Severity) : ¬ v.Spells s := by
  intro hs
  refine h (isPlainLetter_of_mem_name (v := v) _ ?_)
  rw [← hs]
  exact List.mem_map_of_mem hc

end Severity

/-! ### What values look like -/

/-- Texts with a character in front of the letters: a digit, a sign, a point, a colon. -/
def HasFrontChar (cs : List Char) : Prop := ∃ c ∈ cs, c.toNat < 0x41

theorem HasFrontChar.not_spells {s : String} (h : HasFrontChar s.toList) (v : Severity) :
    ¬ v.Spells s := by
  obtain ⟨c, hc, hfront⟩ := h
  refine Severity.not_spells_of_mem hc (fun hplain => ?_) v
  have hlow := hplain.low
  rw [toNat_toLower, if_neg (by omega)] at hlow
  omega

theorem HasFrontChar.append {cs : List Char} (h : HasFrontChar cs) (front : List Char) :
    HasFrontChar (front ++ cs) := by
  obtain ⟨c, hc, hfront⟩ := h
  exact ⟨c, List.mem_append_right front hc, hfront⟩

theorem hasFrontChar_toDigits (n : Nat) : HasFrontChar (Nat.toDigits 10 n) := by
  obtain ⟨c, hc⟩ := List.exists_mem_of_ne_nil _ (Nat.toDigits_ne_nil (n := n) (b := 10))
  have hdigit := Nat.isDigit_of_mem_toDigits (by decide) (Nat.le_refl _) hc
  refine ⟨c, hc, ?_⟩
  simp only [Char.isDigit, ge_iff_le, UInt32.le_iff_toNat_le, Bool.and_eq_true,
    decide_eq_true_eq] at hdigit
  exact Nat.lt_of_le_of_lt hdigit.2 (by decide)

theorem hasFrontChar_exponentText (n : Int) : HasFrontChar (Layout.exponentText n) := by
  unfold Layout.exponentText
  by_cases hn : n < 0
  · exact ⟨'-', by simp [hn], by decide⟩
  · exact ⟨'+', by simp [hn], by decide⟩

theorem hasFrontChar_digitsText (d : Digits) :
    realLayout.digitsText d = [] ∨ HasFrontChar (realLayout.digitsText d) := by
  unfold Layout.digitsText
  simp only [realLayout, if_true]
  split
  · right
    split
    · exact ⟨'0', by simp, by decide⟩
    · split <;> exact ⟨'.', by simp, by decide⟩
  · split
    · exact .inl rfl
    next c _ => exact .inr ((hasFrontChar_exponentText _).append [c])
    · exact .inr ⟨'.', by simp, by decide⟩

namespace Setting

theorem hasFrontChar_shown_int (n : Int) : HasFrontChar (shown (.int n)).toList := by
  cases n with
  | ofNat m =>
    change HasFrontChar m.repr.toList
    exact Nat.toList_repr ▸ hasFrontChar_toDigits m
  | negSucc m =>
    change HasFrontChar ("-" ++ (m + 1).repr).toList
    exact ⟨'-', by simp, by decide⟩

theorem not_spells_shown_real (x : Binary64) (v : Severity) : ¬ v.Spells (shown (.real x)) := by
  change ¬ v.Spells (String.ofList (realLayout.text x))
  unfold Layout.text
  split
  · cases v <;> decide
  next s => cases s <;> cases v <;> decide
  next s m e =>
    dsimp only
    split
    · exact HasFrontChar.not_spells ⟨'0', by simp, by decide⟩ v
    · obtain hdigits | hdigits := hasFrontChar_digitsText (Shortest.ofFinite m e)
      · rw [hdigits]
        cases s <;> cases v <;> decide
      · exact HasFrontChar.not_spells (by simpa using hdigits.append _) v

theorem shown_date (d : Date) :
    shown (.date d) = padded 4 d.year ++ "-" ++ padded 2 d.month ++ "-" ++ padded 2 d.day := rfl

theorem shown_dateTime (d : Date) (t : Time) (offset : Option Int) :
    shown (.dateTime d t offset) = shown (.date d) ++ " " ++ t.iso ++ offsetText offset := rfl

theorem shown_list (items : List Setting) :
    shown (.list items) = "[" ++ commaSeparated (quotedItems items) ++ "]" := rfl

theorem shown_table (fields : SettingTable) :
    shown (.table fields) = "\x7b" ++ commaSeparated (quotedFields fields) ++ "\x7d" := rfl

theorem hasFrontChar_shown_date (d : Date) : HasFrontChar (shown (.date d)).toList := by
  rw [shown_date]
  exact ⟨'-', by simp, by decide⟩

theorem hasFrontChar_shown_time (t : Time) : HasFrontChar (shown (.time t)).toList := by
  change HasFrontChar t.iso.toList
  unfold Time.iso
  simp only [toString]
  split <;> exact ⟨':', by simp, by decide⟩

theorem hasFrontChar_shown_dateTime (d : Date) (t : Time) (offset : Option Int) :
    HasFrontChar (shown (.dateTime d t offset)).toList := by
  rw [shown_dateTime, shown_date]
  exact ⟨'-', by simp, by decide⟩

/-- Only texts spell a severity. -/
theorem spells_shown_iff {v : Setting} {s : Severity} :
    s.Spells v.shown ↔ ∃ word, v = .text word ∧ s.Spells word := by
  cases v with
  | text word => simp [shown]
  | null => exact iff_of_false (by cases s <;> decide) (by simp)
  | bool b => exact iff_of_false (by cases b <;> cases s <;> decide) (by simp)
  | int n => simp [(hasFrontChar_shown_int n).not_spells]
  | real x => simp [not_spells_shown_real]
  | date d => simp [(hasFrontChar_shown_date d).not_spells]
  | time t => simp [(hasFrontChar_shown_time t).not_spells]
  | dateTime d t offset => simp [(hasFrontChar_shown_dateTime d t offset).not_spells]
  | list items =>
    have hmem : '[' ∈ (shown (.list items)).toList := by
      rw [shown_list]
      simp
    simp [Severity.not_spells_of_mem hmem (by decide)]
  | table fields =>
    have hmem : '\x7b' ∈ (shown (.table fields)).toList := by
      rw [shown_table]
      simp
    simp [Severity.not_spells_of_mem hmem (by decide)]

end Setting

end SourceConventions
