import SourceConventions.Proofs.Comments.Layout

/-!
# Looking for the comments of a line

Where a line can be read, looking for its comments finds the one that is read, and leaves off in the
mode in which the next line is read.
-/

namespace SourceConventions.Syntax.Comment

/-- What may stand behind the characters of a line. -/
def lineEnds : List (List Char) := [[], ['\n'], ['\r', '\n']]

theorem mem_lineEnds {e : List Char} : e ∈ lineEnds ↔ e = [] ∨ e = ['\n'] ∨ e = ['\r', '\n'] := by
  simp [lineEnds]

/-- Characters of one line. -/
def OneLine (body : List Char) : Prop := '\n' ∉ body ∧ '\r' ∉ body

variable {body line : List Char} {c : Char} {q : Quote}

theorem OneLine.suffix {part : List Char} (h : OneLine body) (hpart : part <:+ body) : OneLine part :=
  ⟨mt (hpart.subset ·) h.1, mt (hpart.subset ·) h.2⟩

theorem OneLine.head (h : OneLine (c :: body)) : c ≠ '\n' ∧ c ≠ '\r' :=
  ⟨fun heq => h.1 (heq ▸ List.mem_cons_self), fun heq => h.2 (heq ▸ List.mem_cons_self)⟩

theorem OneLine.tail (h : OneLine (c :: body)) : OneLine body := h.suffix (List.suffix_cons c body)

/-- No quotes stand in the end of a line, so that none are found there that the line has not. -/
theorem not_quotes_append {e : List Char} (he : e ∈ lineEnds)
    (h : ∀ rest, body ≠ q.char :: q.char :: rest) (rest : List Char) :
    body ++ e ≠ q.char :: q.char :: rest := by
  obtain ⟨-, hnew, hreturn, -⟩ := q.char_ne
  intro heq
  match body, h, heq with
  | [], _, heq =>
    rcases mem_lineEnds.mp he with rfl | rfl | rfl
    · cases heq
    · exact hnew (List.cons.inj heq).1.symm
    · exact hreturn (List.cons.inj heq).1.symm
  | [a], _, heq =>
    have heq := (List.cons.inj heq).2
    rcases mem_lineEnds.mp he with rfl | rfl | rfl
    · cases heq
    · exact hnew (List.cons.inj heq).1.symm
    · exact hreturn (List.cons.inj heq).1.symm
  | a :: b :: more, h, heq =>
    have ha : a = q.char := (List.cons.inj heq).1
    have hb : b = q.char := (List.cons.inj (List.cons.inj heq).2).1
    exact h more (by rw [ha, hb])

/-! ### Ends of texts -/

theorem behindLong?_plain {rest : List Char} (hc : c ≠ '\\') (hq : c ≠ q.char) :
    behindLong? q.char (c :: rest) = behindLong? q.char rest := by
  rw [behindLong?.eq_def]
  split
  next heq => cases heq
  next heq => exact absurd (List.cons.inj heq).1 hc
  next heq =>
    obtain ⟨rfl, rfl⟩ := List.cons.inj heq
    exact if_neg hq

theorem behindLong?_quote (rest : List Char) :
    behindLong? q.char (q.char :: rest) =
      match rest with
      | a :: b :: more =>
        if a = q.char ∧ b = q.char then some more else behindLong? q.char rest
      | _ => behindLong? q.char rest := by
  rw [behindLong?.eq_def]
  split
  next heq => cases heq
  next heq => exact absurd (List.cons.inj heq).1 q.char_ne.1
  next heq =>
    obtain ⟨rfl, rfl⟩ := List.cons.inj heq
    exact if_pos rfl

theorem behindLong?_once {rest : List Char} (h : ∀ more, rest ≠ q.char :: q.char :: more) :
    behindLong? q.char (q.char :: rest) = behindLong? q.char rest := by
  rw [behindLong?_quote]
  split
  next a b more =>
    refine if_neg ?_
    rintro ⟨rfl, rfl⟩
    exact h more rfl
  next => rfl

/-- What is found at the end of a line that starts in a long text: what follows the text, or
nothing. -/
def LongEnd (q : Quote) (e body : List Char) : Prop :=
  (∃ rest, q.char :: rest <:+ body ∧ behindLong? q.char (body ++ e) = some (rest ++ e) ∧
      readLine (.long q) body = readLine .code rest) ∨
    behindLong? q.char (body ++ e) = none ∧ readLine (.long q) body = some ⟨none, .long q, 0⟩

theorem LongEnd.behind {e more : List Char} (part : List Char)
    (hscan : behindLong? q.char (part ++ more ++ e) = behindLong? q.char (more ++ e))
    (hread : readLine (.long q) (part ++ more) = readLine (.long q) more) (h : LongEnd q e more) :
    LongEnd q e (part ++ more) := by
  rw [LongEnd, hscan, hread]
  rcases h with ⟨rest, hrest, hfound⟩ | hnone
  · exact .inl ⟨rest, hrest.trans (List.suffix_append part more), hfound⟩
  · exact .inr hnone

theorem longEnd {e : List Char} (he : e ∈ lineEnds) : ∀ body, OneLine body → LongEnd q e body
  | [], _ => by
    refine .inr ⟨?_, by rw [readLine]⟩
    rcases mem_lineEnds.mp he with rfl | rfl | rfl <;> cases q <;> decide
  | c :: more, hbody => by
    by_cases hback : c = '\\'
    · subst hback
      cases more with
      | nil =>
        refine .inr ⟨?_, ?_⟩
        · rcases mem_lineEnds.mp he with rfl | rfl | rfl <;> cases q <;> decide
        · rw [readLine, if_neg q.char_ne.1.symm, readLine]
          exact fun _ _ _ h => List.cons_ne_nil _ _ h.symm
      | cons d more =>
        refine .behind ['\\', d] ?_ (by rw [List.cons_append, List.singleton_append, readLine])
          (longEnd he more hbody.tail.tail)
        exact if_neg hbody.tail.head.1
    have hrest := longEnd he more hbody.tail
    by_cases hc : c = q.char
    · subst hc
      by_cases hthrice : ∃ rest, more = q.char :: q.char :: rest
      · obtain ⟨rest, rfl⟩ := hthrice
        refine .inl ⟨rest, ⟨[q.char, q.char], rfl⟩, ?_, ?_⟩
        · exact (behindLong?_quote _).trans (if_pos ⟨rfl, rfl⟩)
        · rw [readLine_long_quote, behindQuote_thrice]
      · have honce : ∀ rest, more ≠ q.char :: q.char :: rest := fun rest heq => hthrice ⟨rest, heq⟩
        refine .behind [q.char] (behindLong?_once (not_quotes_append he honce)) ?_ hrest
        rw [List.singleton_append, readLine_long_quote, behindQuote_once honce]
    · exact .behind [c] (behindLong?_plain hback hc) (readLine_long_plain hback hc more) hrest

theorem shortEnd_char {quote : Char} {rest : List Char} (hc : c ≠ '\\') :
    shortEnd quote (c :: rest) =
      if c = quote then .closed rest else if c = '\n' then .unclosed else shortEnd quote rest := by
  rw [shortEnd.eq_def]
  split
  next heq => cases heq
  next heq => exact absurd (List.cons.inj heq).1 hc
  next heq => exact absurd (List.cons.inj heq).1 hc
  next heq => exact absurd (List.cons.inj heq).1 hc
  next heq =>
    obtain ⟨rfl, rfl⟩ := List.cons.inj heq
    simp [hc]

theorem shortEnd_escape {quote d : Char} {rest : List Char} (hd : d ≠ '\n' ∧ d ≠ '\r') :
    shortEnd quote ('\\' :: d :: rest) = shortEnd quote rest := by
  rw [shortEnd]
  · exact hd.1
  · exact fun _ h _ => hd.2 h

theorem behindShort?_char {quote : Char} {rest : List Char} (hc : c ≠ '\\') :
    behindShort? quote (c :: rest) = if c = quote then some rest else behindShort? quote rest := by
  rw [behindShort?.eq_def]
  split
  next heq => cases heq
  next heq => exact absurd (List.cons.inj heq).1 hc
  next heq =>
    obtain ⟨rfl, rfl⟩ := List.cons.inj heq
    rw [if_neg hc]

/-- How a short text ends in its first line, and in a later one. -/
def ShortEnd.Agrees (q : Quote) (e : List Char) (r : LineReading) (body : List Char) : Prop :=
  (∃ rest, q.char :: rest <:+ body ∧ readLine .code rest = some r ∧
      shortEnd q.char (body ++ e) = .closed (rest ++ e) ∧
        behindShort? q.char (body ++ e) = some (rest ++ e)) ∨
    r = ⟨none, .short q, 0⟩ ∧ ['\\'] <:+ body ∧
      (e ≠ [] → shortEnd q.char (body ++ e) = .goesOn) ∧ behindShort? q.char (body ++ e) = none

theorem ShortEnd.Agrees.behind {e more : List Char} {r : LineReading} (part : List Char)
    (hfirst : shortEnd q.char (part ++ more ++ e) = shortEnd q.char (more ++ e))
    (hlater : behindShort? q.char (part ++ more ++ e) = behindShort? q.char (more ++ e))
    (h : ShortEnd.Agrees q e r more) : ShortEnd.Agrees q e r (part ++ more) := by
  have hsuffix := List.suffix_append part more
  rw [ShortEnd.Agrees, hfirst, hlater]
  rcases h with ⟨rest, hrest, hfound⟩ | ⟨hr, hmarked, hnone⟩
  · exact .inl ⟨rest, hrest.trans hsuffix, hfound⟩
  · exact .inr ⟨hr, hmarked.trans hsuffix, hnone⟩

theorem shortEnd_agrees {e : List Char} (he : e ∈ lineEnds) {r : LineReading} :
    ∀ body, OneLine body → readLine (.short q) body = some r → ShortEnd.Agrees q e r body
  | [], _, hread => by
    rw [readLine] at hread
    cases hread
  | c :: more, hbody, hread => by
    by_cases hback : c = '\\'
    · subst hback
      cases more with
      | nil =>
        rw [readLine] at hread
        cases hread
        refine .inr ⟨rfl, List.suffix_rfl, ?_, ?_⟩
        · rcases mem_lineEnds.mp he with rfl | rfl | rfl
          · exact fun h => absurd rfl h
          · exact fun _ => rfl
          · exact fun _ => rfl
        · rcases mem_lineEnds.mp he with rfl | rfl | rfl <;> cases q <;> decide
      | cons d more =>
        rw [readLine] at hread
        refine .behind ['\\', d] ?_ ?_ (shortEnd_agrees he more hbody.tail.tail hread)
        · exact shortEnd_escape hbody.tail.head
        · exact if_neg hbody.tail.head.1
    by_cases hc : c = q.char
    · subst hc
      rw [readLine_short_quote] at hread
      refine .inl ⟨more, List.suffix_rfl, hread, ?_, ?_⟩
      · exact (shortEnd_char hback).trans (if_pos rfl)
      · exact (behindShort?_char hback).trans (if_pos rfl)
    · rw [readLine_short_plain hback hc] at hread
      refine .behind [c] ?_ ?_ (shortEnd_agrees he more hbody.tail hread)
      · exact (shortEnd_char hback).trans ((if_neg hc).trans (if_neg hbody.head.1))
      · exact (behindShort?_char hback).trans (if_neg hc)

/-! ### Lines that ask for another one -/

theorem isMarked_iff {line : List Char} :
    isMarked line = true ↔ ['\\', '\n'] <:+ line ∨ ['\\', '\r', '\n'] <:+ line := by
  constructor
  · intro h
    unfold isMarked at h
    split at h
    next rest heq =>
      exact .inl ⟨rest.reverse, by rw [← List.reverse_reverse line, heq]; simp⟩
    next rest heq =>
      exact .inr ⟨rest.reverse, by rw [← List.reverse_reverse line, heq]; simp⟩
    next => cases h
  · rintro (⟨rest, rfl⟩ | ⟨rest, rfl⟩) <;> simp [isMarked]

theorem isMarked_append {e : List Char} (he : e ∈ lineEnds) (hne : e ≠ [])
    (h : ['\\'] <:+ body) : isMarked (body ++ e) = true := by
  obtain ⟨rest, rfl⟩ := h
  rw [isMarked_iff, List.append_assoc]
  rcases mem_lineEnds.mp he with rfl | rfl | rfl
  · exact absurd rfl hne
  · exact .inl (List.suffix_append _ _)
  · exact .inr (List.suffix_append _ _)

/-! ### What is left of a line -/

/-- What is known between two lines, given the mode that the later one starts in. -/
def ScanState.Knows (s : ScanState) : LineMode → Prop
  | .code => s.openText = none ∧ s.needsMark = false
  | .short q => s.continued = false ∧ s.needsMark = true ∧
      ∃ line column, s.openText = some ⟨q.char, false, line, column⟩
  | .long q => s.continued = false ∧ s.needsMark = false ∧
      ∃ line column, s.openText = some ⟨q.char, true, line, column⟩

/-- What is known behind a line and its end, given what was known before it and what is read in it.
-/
structure ScanState.Scanned (line e : List Char) (r : LineReading) (s s' : ScanState) : Prop where
  knows : s'.Knows r.mode
  depth : s'.depth = s.depth + r.change
  joined : s'.continued = (!e.isEmpty && r.joins line)
  indents : s'.indents = s.indents

variable {n size fuel : Nat} {s : ScanState} {rest : List Char}

theorem scanRest_char (hnew : c ≠ '\n') (hc : c ≠ '#') (hq : quote? c = none) (hback : c ≠ '\\') :
    scanRest n size (fuel + 1) s (c :: rest) =
      scanRest n size fuel { s with depth := s.depth + bracketChange c } rest := by
  have hquote : ¬(c = '\'' ∨ c = '"') := by
    rintro (rfl | rfl) <;> cases hq
  rw [scanRest.eq_def]
  dsimp only
  rw [if_neg hnew, if_neg hc, if_neg hquote, if_neg hback]
  unfold bracketChange
  split
  · rfl
  · split
    · rfl
    · simp

theorem scanRest_quotes (rest : List Char) :
    scanRest n size (fuel + 1) s (q.char :: q.char :: q.char :: rest) =
      match behindLong? q.char rest with
      | some more => scanRest n size fuel s more
      | none =>
        ({ s with openText := some ⟨q.char, true, n, size - (rest.length + 3)⟩ }, []) := by
  have hquote : q.char = '\'' ∨ q.char = '"' := by cases q <;> simp [Quote.char]
  rw [scanRest.eq_def]
  dsimp only
  rw [if_neg q.char_ne.2.1, if_neg q.char_ne.2.2.2, if_pos hquote]
  exact if_pos ⟨rfl, rfl⟩

theorem scanRest_quote (h : ∀ more, rest ≠ q.char :: q.char :: more) :
    scanRest n size (fuel + 1) s (q.char :: rest) =
      match shortEnd q.char rest with
      | .closed more => scanRest n size fuel s more
      | .goesOn =>
        ({ s with
            openText := some ⟨q.char, false, n, size - (rest.length + 1)⟩, needsMark := true }, [])
      | .unclosed => scanRest n size fuel s rest := by
  have hquote : q.char = '\'' ∨ q.char = '"' := by cases q <;> simp [Quote.char]
  rw [scanRest.eq_def]
  dsimp only
  rw [if_neg q.char_ne.2.1, if_neg q.char_ne.2.2.2, if_pos hquote]
  split
  next a b inside =>
    refine if_neg ?_
    rintro ⟨rfl, rfl⟩
    exact h inside rfl
  next => rfl

theorem scanRest_joined {e : List Char} (he : e ∈ lineEnds) (hne : e ≠ []) :
    scanRest n size (fuel + 1) s ('\\' :: e) = ({ s with continued := true }, []) := by
  rcases mem_lineEnds.mp he with rfl | rfl | rfl
  · exact absurd rfl hne
  · rfl
  · rfl

theorem scanRest_backslash (h : c ≠ '\n' ∧ c ≠ '\r') :
    scanRest n size (fuel + 1) s ('\\' :: c :: rest) = scanRest n size fuel s (c :: rest) := by
  rw [scanRest.eq_def]
  dsimp only
  rw [if_neg (by decide), if_neg (by decide), if_neg (by decide), if_pos rfl]
  split
  next heq => exact absurd (List.cons.inj heq).1 h.1
  next heq => exact absurd (List.cons.inj heq).1 h.2
  next => rfl

theorem scanRest_newline : scanRest n size (fuel + 1) s ('\n' :: rest) = (s, []) := rfl

theorem scanRest_lineEnd {e : List Char} (he : e ∈ lineEnds) (hfuel : e.length < fuel) :
    scanRest n size fuel s e = (s, []) := by
  obtain ⟨fuel, rfl⟩ : ∃ k, fuel = e.length + k + 1 := Nat.exists_eq_add_of_lt hfuel
  rcases mem_lineEnds.mp he with rfl | rfl | rfl
  · rfl
  · rfl
  · have hmore : ['\r', '\n'].length + fuel = fuel + 1 + 1 := Nat.add_comm _ _
    rw [scanRest_char (by decide) (by decide) (by decide) (by decide), hmore, scanRest_newline]
    simp [bracketChange]

/-- A comment goes on to the end of the line. -/
theorem scanRest_comment (hbody : OneLine body) {e : List Char} (he : e ∈ lineEnds)
    (hfuel : e.length < fuel) :
    scanRest n size (fuel + 1) s ('#' :: body ++ e) = (s, [⟨n, '#' :: body⟩]) := by
  have htaken : (body ++ e).takeWhile (fun d => d != '\n' && d != '\r') = body := by
    rw [List.takeWhile_append_of_pos]
    · rcases mem_lineEnds.mp he with rfl | rfl | rfl <;> simp
    · intro d hd
      have hnew : d ≠ '\n' := fun heq => hbody.1 (heq ▸ hd)
      have hreturn : d ≠ '\r' := fun heq => hbody.2 (heq ▸ hd)
      simp [hnew, hreturn]
  rw [scanRest.eq_def]
  dsimp only [List.cons_append]
  rw [if_neg (by decide), if_pos rfl, htaken, List.drop_left, scanRest_lineEnd he hfuel]

/-- What is found from a character of a line on is what is read there. -/
def Follows (n size : Nat) (e : List Char) (fuel : Nat) (body : List Char) : Prop :=
  ∀ (s : ScanState) (r : LineReading), readLine .code body = some r → (e = [] → r.mode = .code) →
    s.Knows .code → s.continued = false →
      ∃ s', scanRest n size fuel s (body ++ e) = (s', r.comments n) ∧ s.Scanned body e r s'

variable {e : List Char} {m : LineMode}

/-- Where nothing is changed, nothing is joined. -/
theorem scanned_self {r : LineReading} (hs : s.Knows .code) (hcontinued : s.continued = false)
    (hmode : r.mode = .code) (hchange : r.change = 0) (hjoins : r.joins body = false) :
    s.Scanned body e r s :=
  ⟨hmode ▸ hs, by rw [hchange, Int.add_zero], by rw [hcontinued, hjoins, Bool.and_false], rfl⟩

/-- A line is not joined to the next one where a text goes on. -/
theorem scanned_goesOn {s' : ScanState} (hm : m ≠ .code) (hs : s'.Knows m)
    (hcontinued : s'.continued = false) (hdepth : s'.depth = s.depth)
    (hindents : s'.indents = s.indents) : s.Scanned body e ⟨none, m, 0⟩ s' := by
  have hjoins : LineReading.joins body ⟨none, m, 0⟩ = false := by
    rw [LineReading.joins, beq_eq_false_iff_ne.mpr hm, Bool.false_and, Bool.false_and]
  refine ⟨hs, ?_, ?_, hindents⟩
  · rw [hdepth, Int.add_zero]
  · rw [hcontinued, hjoins, Bool.and_false]

theorem follows_lineEnd (he : e ∈ lineEnds) (hfuel : e.length < fuel) : Follows n size e fuel [] := by
  intro s r hread _ hs hcontinued
  rw [readLine] at hread
  cases hread
  exact ⟨s, scanRest_lineEnd he hfuel, scanned_self hs hcontinued rfl rfl (LineReading.joins_nil _)⟩

theorem follows_comment (he : e ∈ lineEnds) (hbody : OneLine rest) (hfuel : e.length < fuel) :
    Follows n size e (fuel + 1) ('#' :: rest) := by
  intro s r hread _ hs hcontinued
  rw [readLine_code_comment] at hread
  cases hread
  refine ⟨s, scanRest_comment hbody he hfuel, scanned_self hs hcontinued rfl rfl ?_⟩
  simp [LineReading.joins]

/-- Behind a text that ends in a line, what is found there is what is read. -/
theorem follows_closed {more : List Char} {r : LineReading} (h : Follows n size e fuel more)
    (hmore : q.char :: more <:+ body) (hread : readLine .code more = some r)
    (hend : e = [] → r.mode = .code) (hs : s.Knows .code) (hcontinued : s.continued = false) :
    ∃ s', scanRest n size fuel s (more ++ e) = (s', r.comments n) ∧ s.Scanned body e r s' := by
  obtain ⟨s', hscan, hscanned⟩ := h s r hread hend hs hcontinued
  refine ⟨s', hscan, hscanned.knows, hscanned.depth, ?_, hscanned.indents⟩
  rw [hscanned.joined, r.joins_behind q.char_ne.1 hmore]

theorem follows_quotes (he : e ∈ lineEnds) (hbody : OneLine rest)
    (h : ∀ more, more <:+ rest → Follows n size e fuel more) :
    Follows n size e (fuel + 1) (q.char :: q.char :: q.char :: rest) := by
  intro s r hread hend hs hcontinued
  rw [readLine_code_quote, behindQuote_thrice] at hread
  simp only [List.cons_append]
  rw [scanRest_quotes]
  rcases longEnd he rest hbody with ⟨more, hmore, hscan, hlong⟩ | ⟨hscan, hlong⟩
  · rw [hscan]
    rw [hlong] at hread
    have hbehind := hmore.trans (List.suffix_append [q.char, q.char, q.char] rest)
    exact follows_closed (h more ((List.suffix_cons _ _).trans hmore)) hbehind hread hend hs hcontinued
  · rw [hscan]
    rw [hlong] at hread
    cases hread
    exact ⟨_, rfl, scanned_goesOn nofun ⟨hcontinued, hs.2, _, _, rfl⟩ hcontinued rfl rfl⟩

theorem follows_quote (he : e ∈ lineEnds) (hbody : OneLine rest)
    (honce : ∀ inside, rest ≠ q.char :: q.char :: inside)
    (h : ∀ more, more <:+ rest → Follows n size e fuel more) :
    Follows n size e (fuel + 1) (q.char :: rest) := by
  intro s r hread hend hs hcontinued
  rw [readLine_code_quote, behindQuote_once honce] at hread
  rw [List.cons_append, scanRest_quote (not_quotes_append he honce)]
  rcases shortEnd_agrees he rest hbody hread with
    ⟨more, hmore, hread, hscan, -⟩ | ⟨rfl, -, hscan, -⟩
  · rw [hscan]
    have hbehind := hmore.trans (List.suffix_cons q.char rest)
    exact follows_closed (h more ((List.suffix_cons _ _).trans hmore)) hbehind hread hend hs hcontinued
  · rw [hscan fun hempty => LineMode.noConfusion (hend hempty)]
    exact ⟨_, rfl, scanned_goesOn nofun ⟨hcontinued, rfl, _, _, rfl⟩ hcontinued rfl rfl⟩

theorem follows_backslash (he : e ∈ lineEnds) (hbody : OneLine rest) (hfuel : e.length < fuel)
    (h : Follows n size e fuel rest) : Follows n size e (fuel + 1) ('\\' :: rest) := by
  intro s r hread hend hs hcontinued
  rw [readLine_of_isPlain (by decide)] at hread
  cases rest with
  | nil =>
    rw [readLine] at hread
    cases hread
    by_cases hempty : e = []
    · subst hempty
      refine ⟨s, scanRest_lineEnd (e := []) he hfuel, hs, (Int.add_zero _).symm, ?_, rfl⟩
      exact hcontinued
    · refine ⟨_, scanRest_joined he hempty, hs, (Int.add_zero _).symm, ?_, rfl⟩
      simp [hempty, LineReading.joins]
  | cons d more =>
    simp only [List.cons_append]
    rw [scanRest_backslash hbody.head]
    obtain ⟨s', hscan, hscanned⟩ := h s r hread hend hs hcontinued
    refine ⟨s', hscan, hscanned.knows, hscanned.depth, ?_, hscanned.indents⟩
    rw [hscanned.joined, r.joins_suffix (List.suffix_cons '\\' _) (List.cons_ne_nil _ _)]

theorem follows_char (hnew : c ≠ '\n') (hc : c ≠ '#') (hq : quote? c = none) (hback : c ≠ '\\')
    (h : Follows n size e fuel rest) : Follows n size e (fuel + 1) (c :: rest) := by
  intro s r hread hend hs hcontinued
  rw [readLine_code_plain hc hq] at hread
  obtain ⟨r', hread', rfl⟩ := Option.map_eq_some_iff.mp hread
  rw [List.cons_append, scanRest_char hnew hc hq hback]
  obtain ⟨s', hscan, hscanned⟩ :=
    h { s with depth := s.depth + bracketChange c } r' hread' hend hs hcontinued
  refine ⟨s', hscan, hscanned.knows, ?_, ?_, hscanned.indents⟩
  · rw [hscanned.depth]
    exact Int.add_assoc _ _ _
  · rw [hscanned.joined, ← r'.joins_behind hback List.suffix_rfl]
    rfl

/-- What is found in what is left of a line is what is read there. -/
theorem follows_of_oneLine (he : e ∈ lineEnds) (hbody : OneLine body)
    (hfuel : (body ++ e).length < fuel) : Follows n size e fuel body := by
  induction fuel generalizing body with
  | zero => cases hfuel
  | succ fuel ih =>
    rw [List.length_append] at hfuel
    cases body with
    | nil => exact follows_lineEnd he (by simpa using hfuel)
    | cons c rest =>
      rw [List.length_cons] at hfuel
      have hrest (more : List Char) (hmore : more <:+ rest) : Follows n size e fuel more := by
        have hlength := hmore.length_le
        exact ih (hbody.tail.suffix hmore) (by rw [List.length_append]; omega)
      by_cases hc : c = '#'
      · subst hc
        exact follows_comment he hbody.tail (by omega)
      cases hq : quote? c with
      | some q =>
        obtain rfl := quote?_eq_some hq
        by_cases hthrice : ∃ inside, rest = q.char :: q.char :: inside
        · obtain ⟨inside, rfl⟩ := hthrice
          refine follows_quotes he hbody.tail.tail.tail fun more hmore => hrest more ?_
          exact hmore.trans (List.suffix_append [q.char, q.char] inside)
        · exact follows_quote he hbody.tail (fun inside heq => hthrice ⟨inside, heq⟩) hrest
      | none =>
        by_cases hback : c = '\\'
        · subst hback
          exact follows_backslash he hbody.tail (by omega) (hrest rest List.suffix_rfl)
        · exact follows_char hbody.head.1 hc hq hback (hrest rest List.suffix_rfl)

end SourceConventions.Syntax.Comment
