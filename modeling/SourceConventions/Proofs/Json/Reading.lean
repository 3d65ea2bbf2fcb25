import Mathlib.Data.List.Forall2
import SourceConventions.Proofs.Json.Scalar

/-!
# Reading written values

A value without reals is read from its text again, whatever the layout and whatever follows that
does not go on a number.
-/

namespace SourceConventions.Json

/-! ### Entries -/

theorem isSpace_iff {c : Char} : isSpace c = true ↔ c = ' ' ∨ c = '\t' ∨ c = '\n' ∨ c = '\r' := by
  simp only [isSpace, Bool.or_eq_true, beq_iff_eq, or_assoc]

theorem skipSpace_append {gap : List Char} (h : ∀ c ∈ gap, isSpace c = true) (cs : List Char) :
    skipSpace (gap ++ cs) = skipSpace cs := by
  rw [skipSpace, List.dropWhile_append_of_pos h, skipSpace]

theorem skipSpace_cons {c : Char} (h : isSpace c = false) (cs : List Char) :
    skipSpace (c :: cs) = c :: cs :=
  List.dropWhile_cons_of_neg (by simp [h])

theorem isSpace_lineBreak (indent : Option Nat) (depth : Nat) :
    ∀ c ∈ lineBreak indent depth, isSpace c = true := by
  cases indent with
  | none => exact fun _ h => absurd h List.not_mem_nil
  | some n =>
    intro c hc
    rcases List.mem_cons.mp hc with rfl | hc
    · rfl
    · rw [List.eq_of_mem_replicate hc]
      rfl

/-- Between entries stands a comma, and then nothing but space. -/
theorem exists_entryBreak (indent : Option Nat) (depth : Nat) :
    ∃ gap, entryBreak indent depth = ',' :: gap ∧ ∀ c ∈ gap, isSpace c = true := by
  cases indent with
  | none => exact ⟨[' '], rfl, by simp [isSpace]⟩
  | some n => exact ⟨_, rfl, isSpace_lineBreak (some n) depth⟩

/-- That an entry is read from a text, whatever follows that does not go on a number. -/
structure ReadsAs {α : Type} (entry : List Char → Option (α × List Char)) (text : List Char) (a : α) :
    Prop where
  starts : ∃ c more, text = c :: more ∧ isSpace c = false ∧ c ≠ ']' ∧ c ≠ '\x7d'
  reads : ∀ rest, Ends rest → entry (text ++ rest) = some (a, rest)

variable {α : Type} {entry : List Char → Option (α × List Char)} {closing : Char} {indent : Option Nat}
  {depth fuel : Nat} {gap text : List Char} {texts : List (List Char)} {a : α} {items : List α}

/-- What follows an entry: a bracket, or a comma and the next entry. -/
def behindEntry (indent : Option Nat) (depth : Nat) (closing : Char) (texts : List (List Char)) :
    List Char :=
  texts.flatMap (fun text => entryBreak indent (depth + 1) ++ text) ++ lineBreak indent depth ++ [closing]

theorem behindEntry_nil (rest : List Char) :
    behindEntry indent depth closing [] ++ rest = lineBreak indent depth ++ closing :: rest := by
  simp [behindEntry]

/-- Behind an entry that is not the last one stands a comma, then space, then the next entry. -/
theorem exists_behindEntry_cons (indent : Option Nat) (depth : Nat) (closing : Char) (text : List Char)
    (texts : List (List Char)) (rest : List Char) :
    ∃ gap, (∀ c ∈ gap, isSpace c = true) ∧
      behindEntry indent depth closing (text :: texts) ++ rest =
        ',' :: (gap ++ (text ++ (behindEntry indent depth closing texts ++ rest))) := by
  obtain ⟨gap, hbreak, hgap⟩ := exists_entryBreak indent (depth + 1)
  exact ⟨gap, hgap, by simp [behindEntry, hbreak]⟩

theorem ends_cons {c : Char} (h : c.isDigit = false ∧ c ≠ '.' ∧ c ≠ 'e' ∧ c ≠ 'E')
    (rest : List Char) : Ends (c :: rest) :=
  fun _ hc => Option.some.inj hc ▸ h

theorem ends_behindEntry (indent : Option Nat) (depth : Nat) (texts : List (List Char))
    (hclosing : closing = ']' ∨ closing = '\x7d') (rest : List Char) :
    Ends (behindEntry indent depth closing texts ++ rest) := by
  cases texts with
  | nil =>
    rw [behindEntry_nil]
    cases indent with
    | none => exact ends_cons (by rcases hclosing with rfl | rfl <;> decide) rest
    | some n => exact ends_cons (by decide) _
  | cons text texts =>
    obtain ⟨gap, -, hbehind⟩ := exists_behindEntry_cons indent depth closing text texts rest
    rw [hbehind]
    exact ends_cons (by decide) _

theorem isSpace_closing (hclosing : closing = ']' ∨ closing = '\x7d') : isSpace closing = false := by
  rcases hclosing with rfl | rfl <;> decide

/-- Entries are read up to the bracket that closes them. -/
theorem entries_written (hclosing : closing = ']' ∨ closing = '\x7d')
    (hgap : ∀ c ∈ gap, isSpace c = true)
    (h : List.Forall₂ (ReadsAs entry) (text :: texts) (a :: items)) (hfuel : texts.length < fuel)
    (rest : List Char) :
    entries entry closing fuel (gap ++ (text ++ (behindEntry indent depth closing texts ++ rest))) =
      some (a :: items, rest) := by
  induction texts generalizing gap text a items fuel with
  | nil =>
    obtain ⟨fuel, rfl⟩ := Nat.exists_eq_succ_of_ne_zero (Nat.ne_zero_of_lt hfuel)
    obtain ⟨⟨⟨c, more, rfl, hc, -⟩, hreads⟩, hnone⟩ := List.forall₂_cons.mp h
    cases hnone
    have hfirst := hreads _ (ends_behindEntry indent depth [] hclosing rest)
    rw [entries, skipSpace_append hgap, List.cons_append, skipSpace_cons hc, ← List.cons_append, hfirst]
    dsimp only [bind, Option.bind]
    rw [behindEntry_nil, skipSpace_append (isSpace_lineBreak indent depth),
      skipSpace_cons (isSpace_closing hclosing)]
    simp
  | cons next texts ih =>
    obtain ⟨fuel, rfl⟩ := Nat.exists_eq_succ_of_ne_zero (Nat.ne_zero_of_lt hfuel)
    obtain ⟨⟨⟨c, more, rfl, hc, -⟩, hreads⟩, hothers⟩ := List.forall₂_cons.mp h
    obtain ⟨b, items, -, -, rfl⟩ := List.forall₂_cons_left_iff.mp hothers
    have hfirst := hreads _ (ends_behindEntry indent depth (next :: texts) hclosing rest)
    obtain ⟨gap', hgap', hbehind⟩ := exists_behindEntry_cons indent depth closing next texts rest
    have hcomma : ',' ≠ closing := by rcases hclosing with rfl | rfl <;> decide
    rw [entries, skipSpace_append hgap, List.cons_append, skipSpace_cons hc, ← List.cons_append, hfirst]
    dsimp only [bind, Option.bind]
    rw [hbehind, skipSpace_cons (by decide)]
    dsimp only
    rw [if_neg (by simpa using hcomma), if_pos (beq_self_eq_true ','),
      ih hgap' hothers (Nat.lt_of_succ_lt_succ hfuel)]

/-! ### Values -/

theorem enclose_cons (indent : Option Nat) (depth : Nat) (opening closing : Char) (text : List Char)
    (texts : List (List Char)) (rest : List Char) :
    enclose indent depth opening closing (text :: texts) ++ rest =
      opening :: (lineBreak indent (depth + 1) ++
        (text ++ (behindEntry indent depth closing texts ++ rest))) := by
  simp [enclose, behindEntry]

theorem length_lt_behindEntry (indent : Option Nat) (depth : Nat) (closing : Char)
    (texts : List (List Char)) : texts.length < (behindEntry indent depth closing texts).length := by
  induction texts with
  | nil => simp [behindEntry]
  | cons text texts ih =>
    obtain ⟨gap, -, hbehind⟩ := exists_behindEntry_cons indent depth closing text texts []
    rw [List.append_nil, List.append_nil] at hbehind
    rw [hbehind]
    simp only [List.length_cons, List.length_append]
    omega

/-- Behind a bracket that is not closed at once stand entries. -/
theorem value_bracket {rest : List Char} (h : ∀ more, skipSpace rest ≠ ']' :: more) :
    value (fuel + 1) ('[' :: rest) =
      (entries (value fuel) ']' (rest.length + 1) rest).map fun (items, rest) => (.arr items, rest) := by
  rw [value]
  split
  next heq => exact absurd heq (h _)
  next => exact Option.map_eq_bind.symm

theorem value_brace {rest : List Char} (h : ∀ more, skipSpace rest ≠ '\x7d' :: more) :
    value (fuel + 1) ('\x7b' :: rest) = (entries (field (value fuel)) '\x7d' (rest.length + 1) rest).map
      fun (fields, rest) => (.obj fields, rest) := by
  rw [value]
  split
  next heq => exact absurd heq (h _)
  next => exact Option.map_eq_bind.symm

/-- What stands between brackets, from behind the first one. -/
theorem enclosed_written (indent : Option Nat) (depth : Nat)
    (hclosing : closing = ']' ∨ closing = '\x7d')
    (h : List.Forall₂ (ReadsAs entry) (text :: texts) (a :: items)) (rest : List Char) :
    ∃ inside, (∀ opening, enclose indent depth opening closing (text :: texts) ++ rest =
        opening :: inside) ∧ (∀ more, skipSpace inside ≠ closing :: more) ∧
      entries entry closing (inside.length + 1) inside = some (a :: items, rest) := by
  have hgap := isSpace_lineBreak indent (depth + 1)
  have hlength := length_lt_behindEntry indent depth closing texts
  refine ⟨_, fun opening => enclose_cons indent depth opening closing text texts rest, ?_, ?_⟩
  · obtain ⟨⟨c, more, rfl, hc, hbracket, hbrace⟩, -⟩ := (List.forall₂_cons.mp h).1
    intro more' heq
    rw [skipSpace_append hgap, List.cons_append, skipSpace_cons hc] at heq
    rcases hclosing with rfl | rfl
    · exact hbracket (List.cons.inj heq).1
    · exact hbrace (List.cons.inj heq).1
  · refine entries_written hclosing hgap h ?_ rest
    simp only [List.length_append]
    omega

/-- A list is read from its text if its entries are. -/
theorem value_list {values : List Json} (h : List.Forall₂ (ReadsAs (value fuel)) texts values)
    (rest : List Char) :
    value (fuel + 1) (enclose indent depth '[' ']' texts ++ rest) = some (.arr values, rest) := by
  cases h with
  | nil => rfl
  | cons hfirst hothers =>
    obtain ⟨inside, htext, hopen, hread⟩ := enclosed_written indent depth (.inl rfl)
      (.cons hfirst hothers) rest
    rw [htext, value_bracket hopen, hread]
    rfl

/-- A table is read from its text if its fields are. -/
theorem value_table {fields : List (String × Json)}
    (h : List.Forall₂ (ReadsAs (field (value fuel))) texts fields) (rest : List Char) :
    value (fuel + 1) (enclose indent depth '\x7b' '\x7d' texts ++ rest) = some (.obj fields, rest) := by
  cases h with
  | nil => rfl
  | cons hfirst hothers =>
    obtain ⟨inside, htext, hopen, hread⟩ := enclosed_written indent depth (.inr rfl)
      (.cons hfirst hothers) rest
    rw [htext, value_brace hopen, hread]
    rfl

theorem quote_append (cs rest : List Char) :
    quote cs ++ rest = '"' :: (cs.flatMap escapeChar ++ '"' :: rest) := by
  simp [quote]

theorem length_escapeChar_pos (c : Char) : 0 < (escapeChar c).length := by
  unfold escapeChar
  split
  iterate 7 exact Nat.succ_pos _
  next => split <;> [skip; split] <;> exact Nat.succ_pos _

theorem length_le_flatMap_escapeChar (cs : List Char) : cs.length ≤ (cs.flatMap escapeChar).length := by
  induction cs with
  | nil => exact Nat.le_refl _
  | cons c cs ih =>
    have hpos := length_escapeChar_pos c
    rw [List.flatMap_cons, List.length_append, List.length_cons]
    omega

/-- A text in quotes is read from behind the first of them. -/
theorem stringBody_quote (cs rest : List Char) :
    stringBody ((cs.flatMap escapeChar ++ '"' :: rest).length + 1)
      (cs.flatMap escapeChar ++ '"' :: rest) = some (cs, rest) := by
  refine stringBody_quoted cs rest ?_
  have hlength := length_le_flatMap_escapeChar cs
  rw [List.length_append]
  omega

/-- A field is read from its text if its value is. -/
theorem readsAs_field {value : List Char → Option (Json × List Char)} {v : Json} (key : String)
    (h : ReadsAs value text v) :
    ReadsAs (field value) (quote key.toList ++ ':' :: ' ' :: text) (key, v) := by
  obtain ⟨⟨c, more, rfl, hc, -⟩, hreads⟩ := h
  refine ⟨⟨'"', _, quote_append key.toList _, by decide, by decide, by decide⟩, fun rest hrest => ?_⟩
  have hvalue := hreads rest hrest
  rw [List.append_assoc, quote_append, field, stringBody_quote]
  change ((value (skipSpace (c :: (more ++ rest)))).bind fun read =>
    some ((String.ofList key.toList, read.1), read.2)) = _
  rw [skipSpace_cons hc, ← List.cons_append, hvalue, String.ofList_toList]
  rfl

mutual

/-- A value without reals in it. -/
def IsExact : Json → Prop
  | .real _ => False
  | .arr items => AreExact items
  | .obj fields => HasExact fields
  | _ => True

def AreExact : List Json → Prop
  | [] => True
  | v :: rest => IsExact v ∧ AreExact rest

def HasExact : List (String × Json) → Prop
  | [] => True
  | (_, v) :: rest => IsExact v ∧ HasExact rest

end

theorem length_lt_enclose (opening : Char) (h : text ∈ texts) :
    text.length + 1 < (enclose indent depth opening closing texts).length := by
  cases texts with
  | nil => cases h
  | cons first others =>
    have hlength : text.length ≤ (first ++ others.flatMap fun e =>
        entryBreak indent (depth + 1) ++ e).length := by
      rw [List.length_append]
      rcases List.mem_cons.mp h with rfl | h
      · exact Nat.le_add_right _ _
      · have hsub := (List.sublist_flatten_of_mem
          (List.mem_map_of_mem (f := fun e => entryBreak indent (depth + 1) ++ e) h)).length_le
        rw [List.length_append] at hsub
        rw [List.flatMap_def]
        omega
    simp only [enclose, List.length_cons, List.length_append, List.length_nil] at hlength ⊢
    omega

theorem two_le_length_enclose (opening : Char) :
    2 ≤ (enclose indent depth opening closing texts).length := by
  cases texts with
  | nil => exact Nat.le_refl 2
  | cons text others =>
    simp only [enclose, List.length_append, List.length_cons]
    omega

theorem readsAs_enclose {opening : Char} {v : Json} (hopening : opening = '[' ∨ opening = '\x7b')
    (h : ∀ rest, value (fuel + 1) (enclose indent depth opening closing texts ++ rest) = some (v, rest)) :
    ReadsAs (value (fuel + 1)) (enclose indent depth opening closing texts) v := by
  refine ⟨?_, fun rest _ => h rest⟩
  have hbracket : isSpace opening = false ∧ opening ≠ ']' ∧ opening ≠ '\x7d' := by
    rcases hopening with rfl | rfl <;> decide
  cases texts with
  | nil => exact ⟨opening, _, rfl, hbracket⟩
  | cons text others => exact ⟨opening, _, rfl, hbracket⟩

theorem readsAs_word {w : String} {c : Char} {letters : List Char} {v : Json}
    (hw : w.toList = c :: letters) (hc : isSpace c = false ∧ c ≠ ']' ∧ c ≠ '\x7d')
    (h : ∀ rest, value (fuel + 1) (c :: rest) = word? w v (c :: rest)) :
    ReadsAs (value (fuel + 1)) w.toList v := by
  refine ⟨⟨c, letters, hw, hc⟩, fun rest _ => ?_⟩
  have hfront : w.toList.isPrefixOf (w.toList ++ rest) = true :=
    List.isPrefixOf_iff_prefix.mpr (List.prefix_append _ _)
  rw [hw, List.cons_append, h, ← List.cons_append, ← hw, word?, if_pos hfront, List.drop_left]

theorem readsAs_intText (n : Int) : ReadsAs (value (fuel + 1)) (intText n) (.int n) := by
  refine ⟨?_, fun rest hrest => value_intText n fuel hrest⟩
  obtain ⟨d, ds, hdigits, hd⟩ := exists_digit_toDigits n.natAbs
  have hne (c : Char) (hc : c.isDigit = false) : d ≠ c := by
    rintro rfl
    exact absurd (hd.symm.trans hc) Bool.true_eq_false.mp
  rw [intText, hdigits]
  split
  · exact ⟨'-', _, rfl, by decide⟩
  · refine ⟨d, ds, rfl, ?_, hne _ (by decide), hne _ (by decide)⟩
    simp [isSpace, hne ' ' (by decide), hne '\t' (by decide), hne '\n' (by decide), hne '\r' (by decide)]

theorem readsAs_quote (s : String) : ReadsAs (value (fuel + 1)) (quote s.toList) (.str s) := by
  refine ⟨⟨'"', _, rfl, by decide⟩, fun rest _ => ?_⟩
  rw [quote_append, value, stringBody_quote]
  exact congrArg (fun s => some (Json.str s, rest)) String.ofList_toList

mutual

/-- A value is read from its text. -/
theorem readsAs_chars (depth fuel : Nat) : ∀ {v : Json}, IsExact v →
    (chars indent depth v).length ≤ fuel → ReadsAs (value (fuel + 1)) (chars indent depth v) v
  | .null, _, _ => readsAs_word (w := "null") rfl (by decide) fun _ => rfl
  | .bool true, _, _ => readsAs_word (w := "true") rfl (by decide) fun _ => rfl
  | .bool false, _, _ => readsAs_word (w := "false") rfl (by decide) fun _ => rfl
  | .int n, _, _ => readsAs_intText n
  | .str s, _, _ => readsAs_quote s
  | .arr items, hexact, h => by
    obtain ⟨fuel, rfl⟩ := Nat.exists_eq_add_of_le' (Nat.le_trans (two_le_length_enclose '[') h)
    refine readsAs_enclose (.inl rfl) (value_list (readsAs_items (depth + 1) (fuel + 1) hexact ?_))
    intro text htext
    have hlength := Nat.lt_of_lt_of_le (length_lt_enclose '[' htext) h
    omega
  | .obj fields, hexact, h => by
    obtain ⟨fuel, rfl⟩ := Nat.exists_eq_add_of_le' (Nat.le_trans (two_le_length_enclose '\x7b') h)
    refine readsAs_enclose (.inr rfl) (value_table (readsAs_fields (depth + 1) (fuel + 1) hexact ?_))
    intro text htext
    have hlength := Nat.lt_of_lt_of_le (length_lt_enclose '\x7b' htext) h
    omega

theorem readsAs_items (depth fuel : Nat) : ∀ {items : List Json}, AreExact items →
    (∀ text ∈ itemChars indent depth items, text.length ≤ fuel) →
      List.Forall₂ (ReadsAs (value (fuel + 1))) (itemChars indent depth items) items
  | [], _, _ => .nil
  | v :: rest, ⟨hv, hrest⟩, h => by
    obtain ⟨hfirst, hothers⟩ := List.forall_mem_cons.mp h
    exact .cons (readsAs_chars depth fuel hv hfirst) (readsAs_items depth fuel hrest hothers)

theorem readsAs_fields (depth fuel : Nat) : ∀ {fields : List (String × Json)}, HasExact fields →
    (∀ text ∈ fieldChars indent depth fields, text.length ≤ fuel) →
      List.Forall₂ (ReadsAs (field (value (fuel + 1)))) (fieldChars indent depth fields) fields
  | [], _, _ => .nil
  | (key, v) :: rest, ⟨hv, hrest⟩, h => by
    obtain ⟨hfirst, hothers⟩ := List.forall_mem_cons.mp h
    have hlength : (chars indent depth v).length ≤ fuel := by
      rw [List.length_append, List.length_cons, List.length_cons] at hfirst
      omega
    exact .cons (readsAs_field key (readsAs_chars depth fuel hv hlength))
      (readsAs_fields depth fuel hrest hothers)

end

/-- The whole text of a value, blanks behind it or none, is read as the value. -/
theorem ofChars?_chars {v : Json} (hexact : IsExact v) (indent : Option Nat) {blanks : List Char}
    (hblanks : ∀ c ∈ blanks, isSpace c = true) : ofChars? (chars indent 0 v ++ blanks) = some v := by
  have hfuel : (chars indent 0 v).length ≤ (chars indent 0 v ++ blanks).length := by
    rw [List.length_append]
    exact Nat.le_add_right _ _
  obtain ⟨⟨c, more, htext, hc, -⟩, hreads⟩ := readsAs_chars 0 _ hexact hfuel
  have hends : Ends blanks := by
    intro d hd
    rcases isSpace_iff.mp (hblanks d (List.mem_of_head? hd)) with rfl | rfl | rfl | rfl <;> decide
  have hskip : skipSpace (chars indent 0 v ++ blanks) = chars indent 0 v ++ blanks := by
    rw [htext, List.cons_append, skipSpace_cons hc]
  have hleft : skipSpace blanks = [] := by
    have hall := skipSpace_append hblanks []
    rwa [List.append_nil] at hall
  rw [ofChars?, hskip, hreads blanks hends]
  dsimp only [bind, Option.bind]
  rw [hleft]
  rfl

end SourceConventions.Json
