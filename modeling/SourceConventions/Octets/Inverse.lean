import Std.Data.HashMap

/-!
# Numbers of characters

A table tells the characters of numbers; here the numbers of characters are looked up.
-/

namespace SourceConventions

/-- Which number of a character counts if it has several. -/
inductive Preference where
  | first
  | last
  deriving DecidableEq, Repr

/-- What is known of characters, by the hash of the core library. -/
abbrev CharMap (α : Type) := @Std.HashMap Char α instBEqOfDecidableEq instHashableChar

abbrev Inverse := CharMap Nat

namespace Inverse

def add (p : Preference) (char? : Nat → Option Char) (known : Inverse) (n : Nat) : Inverse :=
  match char? n, p with
  | none, _ => known
  | some c, .first => known.insertIfNew c n
  | some c, .last => known.insert c n

/-- The numbers of the characters that some numbers have. -/
def ofNumbers (p : Preference) (char? : Nat → Option Char) (numbers : List Nat) : Inverse :=
  numbers.foldl (add p char?) ∅

theorem char?_of_add {p : Preference} {char? : Nat → Option Char} {known : Inverse} {m : Nat}
    (h : ∀ c n, known[c]? = some n → char? n = some c) :
    ∀ c n, (add p char? known m)[c]? = some n → char? n = some c := by
  intro c n found
  unfold add at found
  split at found
  · exact h c n found
  · next d hd _ =>
    rw [Std.HashMap.getElem?_insertIfNew] at found
    split at found
    · next same =>
      have := eq_of_beq same.1
      subst this
      simp_all
    · exact h c n found
  · next d hd _ =>
    rw [Std.HashMap.getElem?_insert] at found
    split at found
    · next same =>
      have := eq_of_beq same
      subst this
      simp_all
    · exact h c n found

/-- A number that is found for a character is one that the character has. -/
theorem char?_of_ofNumbers {p : Preference} {char? : Nat → Option Char} {numbers : List Nat}
    {c : Char} {n : Nat} (found : (ofNumbers p char? numbers)[c]? = some n) :
    char? n = some c := by
  have step : ∀ (ms : List Nat) (known : Inverse),
      (∀ c n, known[c]? = some n → char? n = some c) →
      ∀ c n, (ms.foldl (add p char?) known)[c]? = some n → char? n = some c := by
    intro ms
    induction ms with
    | nil => intro known h; exact h
    | cons m ms ih => intro known h; exact ih _ (char?_of_add h)
  exact step numbers ∅ (by simp) c n found

end Inverse

end SourceConventions
