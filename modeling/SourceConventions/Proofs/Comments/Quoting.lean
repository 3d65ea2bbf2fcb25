import SourceConventions.Proofs.Text.Lines
import SourceConventions.Syntax.Comment

/-!
# Comments line by line

What hides a comment is a text in quotes. A line is read in the mode in which the line before it has
ended, and ends in a mode of its own. Modes are all that goes from one line to the next, so that
blanks in front of lines do not count.
-/

namespace SourceConventions.Syntax

/-- The quotes in which a text can stand. -/
inductive Quote where
  | single
  | double
  deriving DecidableEq

def Quote.char : Quote → Char
  | .single => '\''
  | .double => '"'

/-- The quotes that a character is. -/
def quote? (c : Char) : Option Quote :=
  if c = '\'' then some .single else if c = '"' then some .double else none

@[simp] theorem quote?_char (q : Quote) : quote? q.char = some q := by cases q <;> rfl

theorem quote?_eq_some {c : Char} {q : Quote} (h : quote? c = some q) : c = q.char := by
  unfold quote? at h
  split at h
  · cases h; assumption
  · split at h
    · cases h; assumption
    · cases h

theorem Quote.char_ne (q : Quote) : q.char ≠ '\\' ∧ q.char ≠ '\n' ∧ q.char ≠ '\r' ∧ q.char ≠ '#' := by
  cases q <;> decide

theorem Quote.char_injective {q q' : Quote} (h : q.char = q'.char) : q = q' :=
  Option.some.inj (by rw [← quote?_char q, h, quote?_char])

theorem Quote.char_notMem_blanks (q : Quote) : q.char ∉ [' ', '\t', '\x0c'] := by
  cases q <;> decide

/-- How many more brackets are open behind a character. -/
def bracketChange (c : Char) : Int :=
  if c = '(' ∨ c = '[' ∨ c = '\x7b' then 1 else if c = ')' ∨ c = ']' ∨ c = '\x7d' then -1 else 0

/-- What a line starts in the middle of: nothing, a text that has to say by a backslash that it goes
on, or one that goes on anyway. -/
inductive LineMode where
  | code
  | short (q : Quote)
  | long (q : Quote)
  deriving DecidableEq

/-- What is read in a line: the comment at its end, the mode of the next line, and how many more
brackets are open behind it. -/
structure LineReading where
  comment : Option (List Char)
  mode : LineMode
  change : Int
  deriving DecidableEq

def LineReading.behind (c : Char) (r : LineReading) : LineReading :=
  { r with change := bracketChange c + r.change }

/-- The mode behind a quote: the first one if the quote follows twice more, which are stepped over,
and the second one otherwise. -/
def behindQuote (q : Quote) (thrice once : LineMode) : List Char → LineMode × List Char
  | a :: b :: rest => if a = q.char ∧ b = q.char then (thrice, rest) else (once, a :: b :: rest)
  | rest => (once, rest)

theorem length_behindQuote (q : Quote) (thrice once : LineMode) (rest : List Char) :
    (behindQuote q thrice once rest).2.length ≤ rest.length := by
  unfold behindQuote
  split
  · split
    · simp only [List.length_cons]
      omega
    · exact Nat.le_refl _
  · exact Nat.le_refl _

/-- Reads a line. A short text that is neither closed nor joined to the next line cannot be read. -/
def readLine : LineMode → List Char → Option LineReading
  | .code, [] => some ⟨none, .code, 0⟩
  | .code, c :: rest =>
    if c = '#' then some ⟨some (c :: rest), .code, 0⟩
    else
      match quote? c with
      | some q =>
        readLine (behindQuote q (.long q) (.short q) rest).1
          (behindQuote q (.long q) (.short q) rest).2
      | none => (readLine .code rest).map (·.behind c)
  | .short _, [] => none
  | .short q, ['\\'] => some ⟨none, .short q, 0⟩
  | .short q, '\\' :: _ :: rest => readLine (.short q) rest
  | .short q, c :: rest => if c = q.char then readLine .code rest else readLine (.short q) rest
  | .long q, [] => some ⟨none, .long q, 0⟩
  | .long q, '\\' :: _ :: rest => readLine (.long q) rest
  | .long q, c :: rest =>
    if c = q.char then
      readLine (behindQuote q .code (.long q) rest).1 (behindQuote q .code (.long q) rest).2
    else readLine (.long q) rest
termination_by _ line => line.length
decreasing_by
  all_goals have hlength := length_behindQuote
  all_goals grind

theorem readLine_code_comment (rest : List Char) :
    readLine .code ('#' :: rest) = some ⟨some ('#' :: rest), .code, 0⟩ := by
  rw [readLine, if_pos rfl]

/-- Comments of lines, and how many more brackets are open behind them. -/
structure Gathered where
  comments : List Comment
  change : Int

/-- What has been gathered together with what stands before it. -/
def Gathered.behind (comments : List Comment) (change : Int) (g : Gathered) : Gathered :=
  ⟨comments ++ g.comments, change + g.change⟩

/-- The comment of a line with its place. -/
def LineReading.comments (n : Nat) (r : LineReading) : List Comment :=
  (r.comment.map (Comment.mk n)).toList

/-- Reads lines from a number on; no text may be left open. -/
def readLines (n : Nat) (m : LineMode) : List (List Char) → Option Gathered
  | [] => if m = .code then some ⟨[], 0⟩ else none
  | line :: rest =>
    (readLine m line).bind fun r =>
      (readLines (n + 1) r.mode rest).map (·.behind (r.comments n) r.change)

@[simp] theorem Gathered.behind_nil (g : Gathered) : g.behind [] 0 = g := by
  simp [behind]

theorem Gathered.behind_behind (cs ds : List Comment) (i j : Int) (g : Gathered) :
    (g.behind ds j).behind cs i = g.behind (cs ++ ds) (i + j) := by
  simp [behind, Int.add_assoc]

/-! ### Reading character by character -/

theorem readLine_code_quote (q : Quote) (rest : List Char) :
    readLine .code (q.char :: rest) =
      readLine (behindQuote q (.long q) (.short q) rest).1
        (behindQuote q (.long q) (.short q) rest).2 := by
  rw [readLine, if_neg q.char_ne.2.2.2, quote?_char]

theorem readLine_code_plain {c : Char} (hc : c ≠ '#') (hq : quote? c = none) (rest : List Char) :
    readLine .code (c :: rest) = (readLine .code rest).map (·.behind c) := by
  rw [readLine, if_neg hc, hq]

theorem readLine_short_plain {q : Quote} {c : Char} (hc : c ≠ '\\') (hq : c ≠ q.char)
    (rest : List Char) : readLine (.short q) (c :: rest) = readLine (.short q) rest := by
  rw [readLine, if_neg hq]
  · exact fun h _ => hc h
  · exact fun _ _ h _ => hc h

theorem readLine_short_quote (q : Quote) (rest : List Char) :
    readLine (.short q) (q.char :: rest) = readLine .code rest := by
  rw [readLine, if_pos rfl]
  · exact fun h _ => q.char_ne.1 h
  · exact fun _ _ h _ => q.char_ne.1 h

theorem readLine_long_plain {q : Quote} {c : Char} (hc : c ≠ '\\') (hq : c ≠ q.char)
    (rest : List Char) : readLine (.long q) (c :: rest) = readLine (.long q) rest := by
  rw [readLine, if_neg hq]
  exact fun _ _ h _ => hc h

theorem readLine_long_quote (q : Quote) (rest : List Char) :
    readLine (.long q) (q.char :: rest) =
      readLine (behindQuote q .code (.long q) rest).1
        (behindQuote q .code (.long q) rest).2 := by
  rw [readLine, if_pos rfl]
  exact fun _ _ h _ => q.char_ne.1 h

/-! ### Characters that do not count -/

/-- Whether a character outside texts and comments neither starts one of these nor is a bracket or
the end of a line. -/
def isPlain (c : Char) : Bool :=
  c != '\n' && c != '#' && (quote? c).isNone && bracketChange c == 0

theorem isPlain_iff {c : Char} :
    isPlain c = true ↔ c ≠ '\n' ∧ c ≠ '#' ∧ quote? c = none ∧ bracketChange c = 0 := by
  simp [isPlain, and_assoc]

theorem LineReading.behind_eq_self {c : Char} (h : bracketChange c = 0) (r : LineReading) :
    r.behind c = r := by
  simp [behind, h]

theorem readLine_of_isPlain {c : Char} (h : isPlain c = true) (rest : List Char) :
    readLine .code (c :: rest) = readLine .code rest := by
  obtain ⟨-, hc, hq, hchange⟩ := isPlain_iff.mp h
  rw [readLine_code_plain hc hq]
  simp [LineReading.behind_eq_self hchange]

theorem readLine_margin {c : Char} (h : Text.isMarginChar c = true) (m : LineMode)
    (line : List Char) : readLine m (c :: line) = readLine m line := by
  have hc : c = ' ' ∨ c = '\t' := by simpa [Text.isMarginChar] using h
  cases m with
  | code => exact readLine_of_isPlain (by rcases hc with rfl | rfl <;> decide) line
  | short q =>
    exact readLine_short_plain (by rcases hc with rfl | rfl <;> decide)
      (by rcases hc with rfl | rfl <;> cases q <;> decide) line
  | long q =>
    exact readLine_long_plain (by rcases hc with rfl | rfl <;> decide)
      (by rcases hc with rfl | rfl <;> cases q <;> decide) line

theorem readLine_outdented {line line' : List Char} (h : Text.Outdented line line') (m : LineMode) :
    readLine m line = readLine m line' := by
  obtain ⟨blanks, hblank, rfl⟩ := h
  induction blanks with
  | nil => rfl
  | cons c blanks ih =>
    obtain ⟨hc, hrest⟩ := List.forall_mem_cons.mp hblank
    rw [List.cons_append, readLine_margin hc, ih hrest]

theorem readLines_outdented {ls ls' : List (List Char)} (h : List.Forall₂ Text.Outdented ls ls')
    (n : Nat) (m : LineMode) : readLines n m ls = readLines n m ls' := by
  induction h generalizing n m with
  | nil => rfl
  | cons hline hrest ih => simp only [readLines, readLine_outdented hline, ih]

/-- An empty line at the end does not count. -/
theorem readLines_append_nil (n : Nat) (m : LineMode) (ls : List (List Char)) :
    readLines n m (ls ++ [[]]) = readLines n m ls := by
  induction ls generalizing n m with
  | nil => cases m <;> simp [readLines, readLine, LineReading.comments]
  | cons line rest ih => simp only [List.cons_append, readLines, ih]

/-! ### Reading a text -/

/-- Reads a text from a line on. -/
def readFrom (m : LineMode) (n : Nat) (cs : List Char) : Option Gathered :=
  readLines n m (Text.lines cs)

theorem readFrom_eq (m : LineMode) (n : Nat) (cs : List Char) :
    readFrom m n cs = (readLine m (Text.firstLine cs)).bind fun r =>
      (readLines (n + 1) r.mode (Text.laterLines cs)).map (·.behind (r.comments n) r.change) := by
  rw [readFrom, Text.lines_eq, readLines]

theorem readFrom_append_newline (m : LineMode) (n : Nat) (cs : List Char) :
    readFrom m n (cs ++ ['\n']) = readFrom m n cs := by
  rw [readFrom, Text.lines_append_newline, readLines_append_nil, readFrom]

theorem readFrom_nil (n : Nat) : readFrom .code n [] = some ⟨[], 0⟩ := by
  simp [readFrom_eq, Text.firstLine, Text.laterLines, Text.lines, Text.linesFrom, readLine, readLines,
    LineReading.comments]

theorem readFrom_append {p cs : List Char} {m m' : LineMode} (hp : '\n' ∉ p) (n : Nat)
    (h : readLine m (p ++ Text.firstLine cs) = readLine m' (Text.firstLine cs)) :
    readFrom m n (p ++ cs) = readFrom m' n cs := by
  rw [readFrom_eq m', readFrom, Text.lines_append hp, readLines, h]

/-- A line in which a text does not end leads to the next one. -/
theorem readFrom_line {l : List Char} {m m' : LineMode} (hl : '\n' ∉ l) (n : Nat)
    (h : readLine m l = some ⟨none, m', 0⟩) (cs : List Char) :
    readFrom m n (l ++ '\n' :: cs) = readFrom m' (n + 1) cs := by
  rw [readFrom, Text.lines_line hl, readLines, h]
  simp [LineReading.comments, readFrom]

theorem readFrom_of_isPlain {c : Char} (h : isPlain c = true) (n : Nat) (cs : List Char) :
    readFrom .code n (c :: cs) = readFrom .code n cs := by
  have hc : c ≠ '\n' := (isPlain_iff.mp h).1
  exact readFrom_append (p := [c]) (by simpa using hc.symm) n (readLine_of_isPlain h _)

theorem readFrom_plain_append {part : List Char} (h : ∀ c ∈ part, isPlain c = true) (n : Nat)
    (cs : List Char) : readFrom .code n (part ++ cs) = readFrom .code n cs := by
  induction part with
  | nil => rfl
  | cons c part ih =>
    obtain ⟨hc, hrest⟩ := List.forall_mem_cons.mp h
    rw [List.cons_append, readFrom_of_isPlain hc, ih hrest]

theorem readFrom_newline (n : Nat) (cs : List Char) :
    readFrom .code n ('\n' :: cs) = readFrom .code (n + 1) cs :=
  readFrom_line (l := []) List.not_mem_nil n (by rw [readLine]) cs

theorem readFrom_continuation (n : Nat) (cs : List Char) :
    readFrom .code n ('\\' :: '\n' :: cs) = readFrom .code (n + 1) cs := by
  rw [readFrom_of_isPlain (by decide), readFrom_newline]

theorem readFrom_bracket {c : Char} (hnew : c ≠ '\n') (hc : c ≠ '#') (hq : quote? c = none) (n : Nat)
    (cs : List Char) :
    readFrom .code n (c :: cs) = (readFrom .code n cs).map (·.behind [] (bracketChange c)) := by
  have hlines : Text.lines (c :: cs) = (c :: Text.firstLine cs) :: Text.laterLines cs :=
    Text.lines_append (p := [c]) (by simpa using hnew.symm) cs
  rw [readFrom_eq .code n cs, readFrom, hlines, readLines, readLine_code_plain hc hq]
  cases readLine .code (Text.firstLine cs) with
  | none => rfl
  | some r =>
    simp only [Option.map_some, Option.bind_some, Option.map_map, LineReading.behind]
    congr 1
    funext g
    exact (Gathered.behind_behind [] (r.comments n) (bracketChange c) r.change g).symm

theorem readFrom_comment (n : Nat) (cs : List Char) :
    readFrom .code n ('#' :: cs) =
      (readFrom .code n (cs.drop (Text.firstLine cs).length)).map
        (·.behind [⟨n, '#' :: Text.firstLine cs⟩] 0) := by
  rcases Text.line_or_more cs with hno | ⟨line, rest, hno, rfl⟩
  · have hfirst : Text.firstLine cs = cs := Text.firstLine_of_notMem hno
    have hno' : '\n' ∉ '#' :: cs := fun h => (List.mem_cons.mp h).elim (by decide) hno
    rw [hfirst, List.drop_length, readFrom_nil, readFrom, Text.lines_of_notMem hno', readLines,
      readLine_code_comment]
    rfl
  · have hno' : '\n' ∉ '#' :: line := fun h => (List.mem_cons.mp h).elim (by decide) hno
    rw [Text.firstLine_append_newline hno, List.drop_left, readFrom_newline, ← List.cons_append,
      readFrom, Text.lines_line hno', readLines, readLine_code_comment]
    rfl

/-! ### Texts in quotes -/

theorem behindQuote_once {q : Quote} {cs : List Char} (h : ∀ rest, cs ≠ q.char :: q.char :: rest)
    (thrice once : LineMode) : behindQuote q thrice once cs = (once, cs) := by
  unfold behindQuote
  split
  next a b rest =>
    refine if_neg ?_
    rintro ⟨rfl, rfl⟩
    exact h rest rfl
  next => rfl

theorem behindQuote_thrice (q : Quote) (thrice once : LineMode) (cs : List Char) :
    behindQuote q thrice once (q.char :: q.char :: cs) = (thrice, cs) :=
  if_pos ⟨rfl, rfl⟩

theorem firstLine_ne {q : Quote} {cs : List Char} (h : ∀ rest, cs ≠ q.char :: q.char :: rest)
    (rest : List Char) : Text.firstLine cs ≠ q.char :: q.char :: rest := by
  intro heq
  obtain ⟨more, hmore⟩ : Text.firstLine cs <+: cs := List.takeWhile_prefix _
  rw [heq] at hmore
  exact h (rest ++ more) hmore.symm

theorem readFrom_open_short {q : Quote} {cs : List Char}
    (h : ∀ rest, cs ≠ q.char :: q.char :: rest) (n : Nat) :
    readFrom .code n (q.char :: cs) = readFrom (.short q) n cs := by
  refine readFrom_append (p := [q.char]) (by simpa using q.char_ne.2.1.symm) n ?_
  rw [List.singleton_append, readLine_code_quote, behindQuote_once (firstLine_ne h)]

theorem readFrom_open_long (q : Quote) (n : Nat) (cs : List Char) :
    readFrom .code n (q.char :: q.char :: q.char :: cs) = readFrom (.long q) n cs := by
  refine readFrom_append (p := [q.char, q.char, q.char]) (by simpa using q.char_ne.2.1.symm) n ?_
  simp only [List.cons_append, List.nil_append]
  rw [readLine_code_quote, behindQuote_thrice]

theorem readFrom_short_close (q : Quote) (n : Nat) (cs : List Char) :
    readFrom (.short q) n (q.char :: cs) = readFrom .code n cs :=
  readFrom_append (p := [q.char]) (by simpa using q.char_ne.2.1.symm) n
    (readLine_short_quote q _)

theorem readFrom_short_plain {q : Quote} {c : Char} (hnew : c ≠ '\n') (hc : c ≠ '\\')
    (hq : c ≠ q.char) (n : Nat) (cs : List Char) :
    readFrom (.short q) n (c :: cs) = readFrom (.short q) n cs :=
  readFrom_append (p := [c]) (by simpa using hnew.symm) n (readLine_short_plain hc hq _)

theorem readFrom_short_escape (q : Quote) (c : Char) (n : Nat) (cs : List Char) :
    readFrom (.short q) n ('\\' :: c :: cs) =
      readFrom (.short q) (if c = '\n' then n + 1 else n) cs := by
  by_cases hc : c = '\n'
  · subst hc
    exact readFrom_line (l := ['\\']) (by decide) n (by rw [readLine]) cs
  · rw [if_neg hc]
    refine readFrom_append (p := ['\\', c]) (fun h => hc (Eq.symm (by simpa using h))) n ?_
    rw [List.cons_append, List.singleton_append, readLine]

theorem readFrom_long_plain {q : Quote} {c : Char} (hnew : c ≠ '\n') (hc : c ≠ '\\')
    (hq : c ≠ q.char) (n : Nat) (cs : List Char) :
    readFrom (.long q) n (c :: cs) = readFrom (.long q) n cs :=
  readFrom_append (p := [c]) (by simpa using hnew.symm) n (readLine_long_plain hc hq _)

theorem readFrom_long_newline (q : Quote) (n : Nat) (cs : List Char) :
    readFrom (.long q) n ('\n' :: cs) = readFrom (.long q) (n + 1) cs :=
  readFrom_line (l := []) List.not_mem_nil n (by rw [readLine]) cs

theorem readFrom_long_escape (q : Quote) (c : Char) (n : Nat) (cs : List Char) :
    readFrom (.long q) n ('\\' :: c :: cs) =
      readFrom (.long q) (if c = '\n' then n + 1 else n) cs := by
  by_cases hc : c = '\n'
  · subst hc
    refine readFrom_line (l := ['\\']) (by decide) n ?_ cs
    rw [readLine, if_neg q.char_ne.1.symm, readLine]
    exact fun _ _ _ h => List.cons_ne_nil _ _ h.symm
  · rw [if_neg hc]
    refine readFrom_append (p := ['\\', c]) (fun h => hc (Eq.symm (by simpa using h))) n ?_
    rw [List.cons_append, List.singleton_append, readLine]

theorem readFrom_long_close (q : Quote) (n : Nat) (cs : List Char) :
    readFrom (.long q) n (q.char :: q.char :: q.char :: cs) = readFrom .code n cs := by
  refine readFrom_append (p := [q.char, q.char, q.char]) (by simpa using q.char_ne.2.1.symm) n ?_
  simp only [List.cons_append, List.nil_append]
  rw [readLine_long_quote, behindQuote_thrice]

theorem readFrom_long_quote {q : Quote} {cs : List Char}
    (h : ∀ rest, cs ≠ q.char :: q.char :: rest) (n : Nat) :
    readFrom (.long q) n (q.char :: cs) = readFrom (.long q) n cs := by
  refine readFrom_append (p := [q.char]) (by simpa using q.char_ne.2.1.symm) n ?_
  rw [List.singleton_append, readLine_long_quote, behindQuote_once (firstLine_ne h)]

/-- Quotes in a long text that are less than three do not count. -/
theorem readFrom_long_quotes {q : Quote} {seen : Nat} {c : Char} (hseen : seen < 3)
    (hc : c ≠ q.char) (n : Nat) (cs : List Char) :
    readFrom (.long q) n (List.replicate seen q.char ++ c :: cs) = readFrom (.long q) n (c :: cs) := by
  induction seen with
  | zero => rfl
  | succ seen ih =>
    rw [List.replicate_succ, List.cons_append, readFrom_long_quote, ih (by omega)]
    intro rest heq
    match seen, hseen with
    | 0, _ => exact hc (List.cons.inj heq).1
    | 1, _ => exact hc (List.cons.inj (List.cons.inj heq).2).1

end SourceConventions.Syntax
