import Mathlib.Data.List.Basic
import SourceConventions.Glob

/-!
# Bracketed sets of a glob

The inside of a set is a row of items, read from the left: three characters with a hyphen in the
middle are a range, any other character stands for itself. Ranges that hold nothing are dropped.
What the cuts at the hyphens make of the inside is this reading of it, also where a dropped range
moves the mark of a negated set to the front.
-/

namespace SourceConventions

namespace Glob

/-- An item of a set, as it is written. -/
inductive Item where
  | char (c : Char)
  | range (low high : Char)

namespace Item

def Holds (c : Char) : Item → Prop
  | .char d => c = d
  | .range low high => low ≤ c ∧ c ≤ high

/-- Whether the item holds any character. -/
def isProper : Item → Bool
  | .char _ => true
  | .range low high => low ≤ high

@[simp] theorem holds_char {c d : Char} : (char d).Holds c ↔ c = d := Iff.rfl

@[simp] theorem holds_range {c low high : Char} :
    (range low high).Holds c ↔ low ≤ c ∧ c ≤ high := Iff.rfl

@[simp] theorem isProper_char (c : Char) : (char c).isProper = true := rfl

@[simp] theorem isProper_range {low high : Char} :
    (range low high).isProper = true ↔ low ≤ high := decide_eq_true_iff

theorem filter_isProper_map_char (cs : List Char) :
    (cs.map char).filter isProper = cs.map char :=
  List.filter_eq_self.mpr (by simp)

end Item

def SomeHolds (items : List Item) (c : Char) : Prop := ∃ i ∈ items, i.Holds c

section SomeHolds

variable {items items' : List Item} {c : Char}

@[simp] theorem someHolds_append :
    SomeHolds (items ++ items') c ↔ SomeHolds items c ∨ SomeHolds items' c := by
  simp only [SomeHolds, List.mem_append, or_and_right, exists_or]

@[simp] theorem someHolds_cons {i : Item} :
    SomeHolds (i :: items) c ↔ i.Holds c ∨ SomeHolds items c := by
  simp [SomeHolds]

@[simp] theorem someHolds_map_char {cs : List Char} : SomeHolds (cs.map .char) c ↔ c ∈ cs := by
  simp [SomeHolds, Item.Holds]

end SomeHolds

def itemsOf : List Char → List Item
  | low :: '-' :: high :: rest => .range low high :: itemsOf rest
  | c :: rest => .char c :: itemsOf rest
  | [] => []

/-- The items of the inside of a set. A mark in front does not begin a range. -/
def itemsOfBody : List Char → List Item
  | '!' :: rest => .char '!' :: itemsOf rest
  | body => itemsOf body

/-- What a set says: some items, and whether it stands for the characters that they leave out. -/
structure CharSet where
  negated : Bool
  items : List Item

namespace CharSet

def Has (set : CharSet) (c : Char) : Prop :=
  if set.negated then ¬ SomeHolds set.items c else SomeHolds set.items c

/-- A mark in front negates the set. A range that begins with the mark comes to the front only
behind dropped ranges; its hyphen and its end are then characters. -/
def ofItems : List Item → CharSet
  | .char '!' :: items => ⟨true, items⟩
  | .range '!' high :: items => ⟨true, .char '-' :: .char high :: items⟩
  | items => ⟨false, items⟩

/-- The set with an inside, as it is written between the brackets. -/
def ofBody (body : List Char) : CharSet := ofItems ((itemsOfBody body).filter Item.isProper)

end CharSet

/-! ### Stretches that list items -/

/-- The stretches between the hyphens that make ranges list the items: a range has its ends on the
two sides of a cut. -/
inductive Lists : List (List Char) → List Item → Prop
  | last (s : List Char) : Lists [s] (s.map .char)
  | range (s : List Char) {low high : Char} {parts : List (List Char)} {items : List Item}
      (later : Lists parts (.char high :: items)) :
      Lists ((s ++ [low]) :: parts) (s.map .char ++ .range low high :: items)

namespace Lists

variable {parts : List (List Char)} {items : List Item} {c : Char}

theorem front (s : List Char) (h : Lists parts items) :
    Lists (parts.modifyHead (s ++ ·)) (s.map .char ++ items) := by
  cases h with
  | last t => simpa using Lists.last (s ++ t)
  | range t later => simpa using Lists.range (s ++ t) later

theorem cons (c : Char) (h : Lists parts items) :
    Lists (parts.modifyHead (c :: ·)) (.char c :: items) := h.front [c]

/-- What begins with a character has the character at the front of its first stretch. -/
theorem of_char_cons (h : Lists parts (.char c :: items)) :
    ∃ t others, parts = (c :: t) :: others ∧ Lists (t :: others) items := by
  generalize hall : Item.char c :: items = all at h
  cases h with
  | last s =>
    cases s with
    | nil => cases hall
    | cons d s =>
      obtain ⟨⟨rfl⟩, rfl⟩ := List.cons.inj hall
      exact ⟨s, [], rfl, .last s⟩
  | range s later =>
    cases s with
    | nil => cases hall
    | cons d s =>
      obtain ⟨⟨rfl⟩, rfl⟩ := List.cons.inj hall
      exact ⟨s ++ _, _, rfl, .range s later⟩

/-- What begins a first stretch is a character of the set or the low end of a range. -/
theorem of_cons_cons {t : List Char} {others : List (List Char)}
    (h : Lists ((c :: t) :: others) items) :
    (∃ later, items = .char c :: later ∧ Lists (t :: others) later) ∨
      t = [] ∧ ∃ high later, items = .range c high :: later ∧
        Lists others (.char high :: later) := by
  generalize hall : (c :: t) :: others = all at h
  cases h with
  | last s =>
    obtain ⟨rfl, rfl⟩ := List.cons.inj hall
    exact .inl ⟨_, rfl, .last t⟩
  | range s later =>
    obtain ⟨hs, rfl⟩ := List.cons.inj hall
    cases s with
    | nil =>
      obtain ⟨rfl, rfl⟩ := List.cons.inj hs
      exact .inr ⟨rfl, _, _, rfl, later⟩
    | cons d s =>
      obtain ⟨rfl, rfl⟩ := List.cons.inj hs
      exact .inl ⟨_, rfl, .range s later⟩

theorem of_nil_cons {others : List (List Char)} (h : Lists ([] :: others) items) :
    others = [] ∧ items = [] := by
  generalize hall : [] :: others = all at h
  cases h with
  | last s =>
    obtain ⟨rfl, rfl⟩ := List.cons.inj hall
    exact ⟨rfl, rfl⟩
  | range s later => simp at hall

theorem ne_nil (h : Lists parts items) : parts ≠ [] := by
  cases h <;> exact List.cons_ne_nil _ _

end Lists

theorem stretches_two_cons (fuel : Nat) (c : Char) (cs : List Char) :
    stretches fuel 2 (c :: cs) = (stretches fuel 1 cs).modifyHead (c :: ·) := by
  cases fuel with
  | zero => rfl
  | succ fuel =>
    simp only [stretches, List.take_succ_cons, List.drop_succ_cons, List.cons_append]
    split <;> rfl

/-- Behind a character that no hyphen makes the low end of a range, the cuts are those of what
follows. -/
theorem stretches_one_cons {c : Char} {rest : List Char} (fuel : Nat)
    (h : ∀ high later, rest ≠ '-' :: high :: later) :
    stretches fuel 1 (c :: rest) = (stretches fuel 1 rest).modifyHead (c :: ·) := by
  cases fuel with
  | zero => rfl
  | succ fuel =>
    cases rest with
    | nil => rfl
    | cons d later =>
      by_cases hd : d = '-'
      · subst hd
        cases later with
        | nil => rfl
        | cons high later => exact absurd rfl (h high later)
      · simp only [stretches, List.take_succ_cons, List.take_zero, List.drop_succ_cons,
          List.drop_zero, List.takeWhile_cons, List.dropWhile_cons, bne_iff_ne.mpr hd, if_true,
          List.cons_append, List.nil_append]
        split <;> rfl

theorem lists_stretches {fuel : Nat} {cs : List Char} (hfuel : cs.length ≤ fuel) :
    Lists (stretches fuel 1 cs) (itemsOf cs) := by
  induction cs using itemsOf.induct generalizing fuel with
  | case1 low high rest ih =>
    cases fuel with
    | zero => cases hfuel
    | succ fuel =>
      have hlater : Lists (stretches fuel 2 (high :: rest)) (.char high :: itemsOf rest) := by
        rw [stretches_two_cons]
        exact (ih (by simp at hfuel; omega)).cons high
      exact Lists.range [] hlater
  | case2 c rest hc ih =>
    rw [stretches_one_cons fuel (fun high later hrest => hc high later hrest), itemsOf]
    · exact (ih (Nat.le_of_succ_le hfuel)).cons c
    · exact hc
  | case3 =>
    cases fuel <;> exact Lists.last []

/-! ### Dropped ranges -/

theorem lists_joinEmptyRanges {parts : List (List Char)} {items : List Item}
    (h : Lists parts items) : Lists (joinEmptyRanges parts) (items.filter Item.isProper) := by
  induction h with
  | last s =>
    rw [Item.filter_isProper_map_char]
    exact .last s
  | @range s low high parts items later ih =>
    obtain ⟨t, others, hparts, hitems⟩ := Lists.of_char_cons ih
    simp only [joinEmptyRanges, hparts, List.getLast?_concat, List.head?_cons,
      List.dropLast_concat, List.tail_cons, List.filter_append,
      Item.filter_isProper_map_char]
    split
    next hempty =>
      rw [List.filter_cons_of_neg (by simpa using hempty)]
      exact hitems.front s
    next hproper =>
      rw [List.filter_cons_of_pos (by simpa using hproper)]
      exact .range s (hitems.cons high)

/-! ### Characters of the ranges -/

def Covers (ranges : List (Char × Char)) (c : Char) : Prop := ∃ r ∈ ranges, r.1 ≤ c ∧ c ≤ r.2

@[simp] theorem covers_append {c : Char} {l l' : List (Char × Char)} :
    Covers (l ++ l') c ↔ Covers l c ∨ Covers l' c := by
  simp only [Covers, List.mem_append, or_and_right, exists_or]

@[simp] theorem covers_cons {c low high : Char} {l : List (Char × Char)} :
    Covers ((low, high) :: l) c ↔ (low ≤ c ∧ c ≤ high) ∨ Covers l c := by
  simp [Covers]

@[simp] theorem covers_nil {c : Char} : ¬ Covers [] c := by
  simp [Covers]

@[simp] theorem covers_singles {c : Char} {cs : List Char} : Covers (singles cs) c ↔ c ∈ cs := by
  constructor
  · rintro ⟨r, hr, hlow, hhigh⟩
    obtain ⟨d, hd, rfl⟩ := List.mem_map.mp hr
    rwa [Char.le_antisymm hhigh hlow]
  · exact fun hc => ⟨(c, c), List.mem_map_of_mem hc, Char.le_refl c, Char.le_refl c⟩

theorem covers_cons_self {c d : Char} {l : List (Char × Char)} :
    Covers ((d, d) :: l) c ↔ c = d ∨ Covers l c := by
  rw [← List.mem_singleton, ← covers_singles, ← covers_append]
  rfl

/-- A proper range holds its ends, so that it does no harm that the stretches have them too. -/
theorem covers_rangesOf_iff {parts : List (List Char)} {items : List Item} {c : Char}
    (h : Lists parts items) (hproper : ∀ i ∈ items, i.isProper = true) :
    Covers (rangesOf parts) c ↔ SomeHolds items c := by
  induction h with
  | last s => simp [rangesOf, between]
  | @range s low high parts items later ih =>
    obtain ⟨t, others, rfl, -⟩ := Lists.of_char_cons later
    simp only [List.forall_mem_append, List.forall_mem_cons] at hproper
    obtain ⟨-, hle, hitems⟩ := hproper
    rw [Item.isProper_range] at hle
    have hranges : rangesOf ((s ++ [low]) :: (high :: t) :: others) =
        singles s ++ (low, low) :: (low, high) :: rangesOf ((high :: t) :: others) := by
      simp [rangesOf, singles, between]
    have hlow : low ≤ c ∧ c ≤ low → low ≤ c ∧ c ≤ high :=
      fun h => ⟨h.1, Char.le_trans h.2 hle⟩
    have hhigh : c = high → low ≤ c ∧ c ≤ high := by
      rintro rfl
      exact ⟨hle, Char.le_refl c⟩
    rw [hranges, covers_append, covers_cons, covers_cons,
      ih (List.forall_mem_cons.mpr ⟨rfl, hitems⟩)]
    simp only [covers_singles, someHolds_append, someHolds_map_char, someHolds_cons,
      Item.holds_char, Item.holds_range]
    grind

/-! ### What a set accepts -/

theorem itemsOf_of_not_mem {cs : List Char} (h : '-' ∉ cs) : itemsOf cs = cs.map .char := by
  induction cs using itemsOf.induct with
  | case1 low high rest ih => simp at h
  | case2 c rest hc ih =>
    rw [itemsOf]
    · rw [ih (fun hrest => h (List.mem_cons_of_mem c hrest)), List.map_cons]
    · exact hc
  | case3 => rfl

theorem itemsOfBody_of_head?_ne {body : List Char} (h : body.head? ≠ some '!') :
    itemsOfBody body = itemsOf body := by
  unfold itemsOfBody
  split
  · exact absurd rfl h
  · rfl

theorem itemsOfBody_of_not_mem {body : List Char} (h : '-' ∉ body) :
    itemsOfBody body = body.map .char := by
  unfold itemsOfBody
  split
  next rest =>
    rw [itemsOf_of_not_mem (fun hrest => h (List.mem_cons_of_mem _ hrest)), List.map_cons]
  next => exact itemsOf_of_not_mem h

/-- The stretches that are left when no range is empty list the items that hold something. -/
theorem lists_properStretches (body : List Char) :
    Lists (properStretches body) ((itemsOfBody body).filter Item.isProper) := by
  unfold properStretches
  split
  next hhyphen =>
    refine lists_joinEmptyRanges ?_
    split
    next hmark =>
      obtain ⟨rest, rfl⟩ := List.head?_eq_some_iff.mp hmark
      rw [stretches_two_cons]
      exact (lists_stretches (Nat.le_succ _)).cons '!'
    next hmark =>
      rw [itemsOfBody_of_head?_ne hmark]
      exact lists_stretches (Nat.le_refl _)
  next hplain =>
    rw [itemsOfBody_of_not_mem (by simpa using hplain), Item.filter_isProper_map_char]
    exact .last body

theorem accepts_set_iff {negated : Bool} {ranges : List (Char × Char)} {c : Char} :
    (Piece.set negated ranges).accepts c = true ↔
      if negated then ¬ Covers ranges c else Covers ranges c := by
  have hany : (ranges.any fun r => r.1 ≤ c && c ≤ r.2) = true ↔ Covers ranges c := by
    simp [Covers]
  cases negated <;> simp [Piece.accepts, ← hany]

theorem ofItems_of_lists {parts : List (List Char)} {items : List Item} (h : Lists parts items)
    (hmark : ∀ t others, parts ≠ ('!' :: t) :: others) :
    CharSet.ofItems items = ⟨false, items⟩ := by
  obtain ⟨stretch, others, rfl⟩ := List.exists_cons_of_ne_nil h.ne_nil
  cases stretch with
  | nil => rw [h.of_nil_cons.2, CharSet.ofItems] <;> simp
  | cons c t =>
    have hc : c ≠ '!' := fun hc => hmark t others (hc ▸ rfl)
    obtain ⟨later, rfl, -⟩ | ⟨-, high, later, rfl, -⟩ := h.of_cons_cons
    · rw [CharSet.ofItems] <;> simp [hc]
    · rw [CharSet.ofItems] <;> simp [hc]

theorem setPiece_accepts_iff {body : List Char} {c : Char} :
    (setPiece body).accepts c = true ↔ (CharSet.ofBody body).Has c := by
  have hproper : ∀ i ∈ (itemsOfBody body).filter Item.isProper, i.isProper = true :=
    fun i hi => (List.mem_filter.mp hi).2
  have hlists := lists_properStretches body
  unfold setPiece CharSet.ofBody
  generalize (itemsOfBody body).filter Item.isProper = items at *
  generalize properStretches body = parts at *
  split
  next second rest =>
    obtain ⟨later, rfl, hlater⟩ | ⟨-, high, later, rfl, hlater⟩ := hlists.of_cons_cons
    · cases hlater.of_nil_cons.1
    · rw [accepts_set_iff, covers_cons_self, covers_rangesOf_iff hlater
        (List.forall_mem_cons.mpr ⟨rfl, (List.forall_mem_cons.mp hproper).2⟩)]
      simp only [CharSet.ofItems, CharSet.Has, someHolds_cons, Item.holds_char]
  next first rest hfirst =>
    obtain ⟨later, rfl, hlater⟩ | ⟨rfl, high, later, rfl, hlater⟩ := hlists.of_cons_cons
    · rw [accepts_set_iff, covers_rangesOf_iff hlater (List.forall_mem_cons.mp hproper).2]
      rfl
    · obtain ⟨second, rest, rfl⟩ := List.exists_cons_of_ne_nil hlater.ne_nil
      exact (hfirst second rest rfl rfl).elim
  next hfirst hsecond =>
    rw [accepts_set_iff, covers_rangesOf_iff hlists hproper, ofItems_of_lists hlists hsecond]
    rfl

end Glob

end SourceConventions
