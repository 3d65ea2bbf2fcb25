import SourceConventions.Proofs.Syntax.Blocking

/-!
# Texts that start with an indent

Lines of blanks and comments give no token but those of comments that declare types. Where the first
other line stands off the margin, an indent is the first token that could open something.
-/

namespace SourceConventions.Syntax

/-- Whether the first of the lines with more than blanks and a comment starts with blanks. A form feed
behind them would take them back, and a backslash may join the line with others: such lines are left
out. -/
def indentsFirst : List (List Char) → Bool
  | [] => false
  | line :: rest =>
    match line.dropWhile Text.isMarginChar with
    | [] => indentsFirst rest
    | c :: _ =>
      if c = '#' then indentsFirst rest
      else line.head?.any Text.isMarginChar && c != '\x0c' && c != '\\'

theorem indentsFirst_append_nil (ls : List (List Char)) :
    indentsFirst (ls ++ [[]]) = indentsFirst ls := by
  induction ls with
  | nil => rfl
  | cons line rest ih =>
    rw [List.cons_append, indentsFirst, indentsFirst, ih]

theorem indentsFirst_of_newline (cs : List Char) :
    indentsFirst (Text.lines (cs ++ ['\n'])) = indentsFirst (Text.lines cs) := by
  rw [Text.lines_append_newline, indentsFirst_append_nil]

/-- A text starts with an indent if it starts with blanks and a character that begins neither a
comment nor an end of the line. -/
theorem indentsFirst_of_blanks {blanks : List Char} (h : ∀ c ∈ blanks, Text.isMarginChar c = true)
    (hne : blanks ≠ []) {c : Char} (hc : Text.isMarginChar c = false)
    (hplain : c ∉ ['\n', '\r', '#', '\x0c', '\\']) (rest : List Char) :
    indentsFirst (Text.lines (Text.unifyLineEnds (blanks ++ c :: rest))) = true := by
  simp only [List.mem_cons, List.not_mem_nil, or_false, not_or] at hplain
  obtain ⟨hnew, hreturn, hhash, hfeed, hback⟩ := hplain
  have hnotMem {d : Char} (hd : Text.isMarginChar d = false) (hdc : c ≠ d) : d ∉ blanks ++ [c] := by
    rw [List.mem_append, List.mem_singleton, not_or]
    exact ⟨fun hmem => Bool.false_ne_true (hd.symm.trans (h d hmem)), Ne.symm hdc⟩
  rw [List.append_cons, Text.unifyLineEnds_append (hnotMem (by decide) hreturn),
    Text.lines_append (hnotMem (by decide) hnew), indentsFirst, List.append_assoc,
    List.dropWhile_append_of_pos h, List.singleton_append, List.dropWhile_cons_of_neg (by simp [hc])]
  obtain ⟨b, blanks, rfl⟩ := List.exists_cons_of_ne_nil hne
  simp [hhash, hfeed, hback, h b List.mem_cons_self]

/-- The first line holds no more than blanks and a comment, or it starts with blanks. -/
theorem indentsFirst_cons {line : List Char} {rest : List (List Char)}
    (h : indentsFirst (line :: rest) = true) :
    (∃ blanks comment, line = blanks ++ comment ∧ (∀ c ∈ blanks, Text.isMarginChar c = true) ∧
        (comment = [] ∨ comment.head? = some '#') ∧ indentsFirst rest = true) ∨
      ∃ blanks c more, line = blanks ++ c :: more ∧ (∀ c ∈ blanks, Text.isMarginChar c = true) ∧
        blanks ≠ [] ∧ Text.isMarginChar c = false ∧ c ≠ '#' ∧ c ≠ '\x0c' ∧ c ≠ '\\' := by
  have hsplit := List.takeWhile_append_dropWhile (p := Text.isMarginChar) (l := line)
  have hblanks : ∀ c ∈ line.takeWhile Text.isMarginChar, Text.isMarginChar c = true :=
    fun c hc => List.mem_takeWhile_imp hc
  rw [indentsFirst] at h
  split at h
  next hdrop =>
    exact .inl ⟨_, [], by rw [← hdrop, hsplit], hblanks, .inl rfl, h⟩
  next c more hdrop =>
    split at h
    next hhash =>
      exact .inl ⟨_, _, hsplit.symm, hblanks, .inr (by rw [hdrop, hhash]; rfl), h⟩
    next hhash =>
      simp only [Bool.and_eq_true, bne_iff_ne, ne_eq] at h
      have hc : Text.isMarginChar c = false := by
        simpa [hdrop] using List.head?_dropWhile_not Text.isMarginChar line
      refine .inr ⟨_, c, more, by rw [← hdrop, hsplit], hblanks, ?_, hc, hhash, h.1.2, h.2⟩
      intro hnone
      rw [hnone, hdrop, List.nil_append] at hsplit
      rw [← hsplit] at h
      simp [hc] at h

/-- A text that starts with an indent starts with blanks and a character that begins no comment, or
with a line of blanks and a comment and a text that starts with an indent. -/
theorem indentsFirst_cases {cs : List Char} (h : indentsFirst (Text.lines cs) = true) :
    (∃ blanks comment rest, cs = blanks ++ (comment ++ '\n' :: rest) ∧
        (∀ c ∈ blanks, Text.isMarginChar c = true) ∧ '\n' ∉ comment ∧
        (comment = [] ∨ comment.head? = some '#') ∧ indentsFirst (Text.lines rest) = true) ∨
      ∃ blanks c rest, cs = blanks ++ c :: rest ∧ (∀ c ∈ blanks, Text.isMarginChar c = true) ∧
        blanks ≠ [] ∧ Text.isMarginChar c = false ∧ c ≠ '\n' ∧ c ≠ '#' ∧ c ≠ '\x0c' ∧ c ≠ '\\' := by
  rcases Text.line_or_more cs with hno | ⟨line, rest, hno, rfl⟩
  · rw [Text.lines_of_notMem hno] at h
    rcases indentsFirst_cons h with
      ⟨_, _, _, _, _, hnone⟩ | ⟨blanks, c, more, rfl, hblanks, hne, hc, hhash, hfeed, hback⟩
    · cases hnone
    · have hnew : c ≠ '\n' := fun heq => hno (by simp [heq])
      exact .inr ⟨blanks, c, more, rfl, hblanks, hne, hc, hnew, hhash, hfeed, hback⟩
  · rw [Text.lines_line hno] at h
    rcases indentsFirst_cons h with
      ⟨blanks, comment, rfl, hblanks, hcomment, hlater⟩ |
        ⟨blanks, c, more, rfl, hblanks, hne, hc, hhash, hfeed, hback⟩
    · have hnew : '\n' ∉ comment := fun hmem => hno (List.mem_append_right blanks hmem)
      exact .inl ⟨blanks, comment, rest, List.append_assoc .., hblanks, hnew, hcomment, hlater⟩
    · have hnew : c ≠ '\n' := fun heq => hno (by simp [heq])
      exact .inr ⟨blanks, c, more ++ '\n' :: rest, by simp, hblanks, hne, hc, hnew, hhash, hfeed,
        hback⟩

namespace LexState

open Lexing

/-- Blanks at the start of a line widen both measures by at least one each. -/
theorem indentation_blanks {blanks : List Char} (hblanks : ∀ c ∈ blanks, Text.isMarginChar c = true)
    {c : Char} (hc : Text.isMarginChar c = false) (hfeed : c ≠ '\x0c') (hback : c ≠ '\\')
    (rest : List Char) (i : Indentation) (line column : Nat) :
    ∃ i' : Indentation,
      indentation i line column (blanks ++ c :: rest) =
        .ok (i', ⟨c :: rest, line, column + blanks.length⟩) ∧
      i'.kept = i.kept ∧ i.column + blanks.length ≤ i'.column ∧
        i.flat + blanks.length ≤ i'.flat := by
  induction blanks generalizing i column with
  | nil =>
    refine ⟨i, ?_, rfl, le_rfl, le_rfl⟩
    simp only [Text.isMarginChar, Bool.or_eq_false_iff, beq_eq_false_iff_ne, ne_eq] at hc
    rw [List.nil_append, indentation.eq_def]
    split <;> simp_all
  | cons b blanks ih =>
    obtain ⟨hb, hblanks⟩ := List.forall_mem_cons.mp hblanks
    have hread (j : Indentation) (hkept : j.kept = i.kept) (hcolumn : i.column + 1 ≤ j.column)
        (hflat : j.flat = i.flat + 1)
        (hstep : indentation i line column (b :: (blanks ++ c :: rest)) =
          indentation j line (column + 1) (blanks ++ c :: rest)) :
        ∃ i' : Indentation,
          indentation i line column (b :: (blanks ++ c :: rest)) =
            .ok (i', ⟨c :: rest, line, column + (blanks.length + 1)⟩) ∧
          i'.kept = i.kept ∧ i.column + (blanks.length + 1) ≤ i'.column ∧
            i.flat + (blanks.length + 1) ≤ i'.flat := by
      obtain ⟨i', hi', hkept', hcolumn', hflat'⟩ := ih hblanks j (column + 1)
      refine ⟨i', ?_, hkept'.trans hkept, by omega, by omega⟩
      rw [hstep, hi', Nat.add_assoc, Nat.add_comm 1]
    rcases Bool.or_eq_true_iff.mp hb with hb | hb
    · obtain rfl := beq_iff_eq.mp hb
      refine hread ⟨i.column + 1, i.flat + 1, i.kept⟩ rfl le_rfl rfl ?_
      rw [indentation]
    · obtain rfl := beq_iff_eq.mp hb
      refine hread ⟨(i.column / 8 + 1) * 8, i.flat + 1, i.kept⟩ rfl (by dsimp only; omega) rfl ?_
      rw [indentation]

/-- Nothing has been told of lines of blanks and comments, and an indented line is still to come. -/
inductive Seeks : LexState → Prop where
  | atLine {s : LexState} (hstart : s.lineStart = true) (hindents : s.indents = [])
      (hbrackets : s.brackets = []) (hdedents : s.dedents = 0)
      (hlines : indentsFirst (Text.lines s.head.rest) = true) : Seeks s
  | inBlank {s : LexState} {comment rest : List Char} (hstart : s.lineStart = false)
      (hblank : s.blankLine = true) (hindents : s.indents = []) (hbrackets : s.brackets = [])
      (hdedents : s.dedents = 0) (hrest : s.head.rest = comment ++ '\n' :: rest)
      (hnew : '\n' ∉ comment) (hcomment : comment = [] ∨ comment.head? = some '#')
      (hlines : indentsFirst (Text.lines rest) = true) : Seeks s

/-- What a step comes to while an indented line is still to come. -/
def Step.Sought : Step → Prop
  | .token t _ => t.opensNothing = true
  | .silent next => next.Seeks
  | .done _ => False
  | .stop _ => True

variable {s : LexState}

theorem sought_applyIndentation (hindents : s.indents = []) {column flat : Nat} (hcolumn : 0 < column)
    (hflat : 0 < flat) (line : Nat) : (s.applyIndentation column flat line).Sought := by
  have hwider : column ≠ 0 := by omega
  have hroom : ¬ maxIndents ≤ 0 + 1 := by decide
  have hdeeper : ¬ flat ≤ 0 := by omega
  simp only [applyIndentation, hindents, List.headD_nil, List.length_nil, if_neg hwider,
    if_pos hcolumn, if_neg hroom, if_neg hdeeper]
  rfl

/-- A line of blanks and a comment is passed over up to the comment. -/
theorem startLine_blank {blanks comment rest : List Char} (hindents : s.indents = [])
    (hbrackets : s.brackets = []) (hdedents : s.dedents = 0)
    (hrest : s.head.rest = blanks ++ (comment ++ '\n' :: rest))
    (hblanks : ∀ c ∈ blanks, Text.isMarginChar c = true) (hnew : '\n' ∉ comment)
    (hcomment : comment = [] ∨ comment.head? = some '#')
    (hlines : indentsFirst (Text.lines rest) = true) : s.startLine.Sought := by
  obtain ⟨c, more, hmore, hc⟩ : ∃ c more, comment ++ '\n' :: rest = c :: more ∧
      (c = '#' ∨ c = '\n') := by
    rcases hcomment with rfl | hhash
    · exact ⟨'\n', rest, rfl, .inr rfl⟩
    · obtain ⟨body, rfl⟩ := List.head?_eq_some_iff.mp hhash
      exact ⟨'#', body ++ '\n' :: rest, rfl, .inl rfl⟩
  have hplain : Text.isMarginChar c = false ∧ c ≠ '\x0c' ∧ c ≠ '\\' := by
    rcases hc with rfl | rfl <;> decide
  obtain ⟨i, hi, -⟩ := indentation_blanks hblanks hplain.1 hplain.2.1 hplain.2.2 more ⟨0, 0, 0⟩
    s.head.line s.head.column
  rw [← hmore] at hi
  unfold startLine
  rw [hrest, hi]
  dsimp -zeta only
  extract_lets since blank start
  have hblank : blank = true := by
    simp only [blank, hmore]
    rcases hc with rfl | rfl <;> rfl
  have hsince : since = s := if_neg (Nat.lt_irrefl _)
  rw [hblank, Bool.true_or, if_pos rfl]
  exact .inBlank rfl hblank (by simp [start, hsince, hindents]) (by simp [start, hsince, hbrackets])
    (by simp [start, hsince, hdedents]) rfl hnew hcomment hlines

/-- A line that starts with blanks and holds more than a comment is told by an indent. -/
theorem startLine_indented {blanks rest : List Char} {c : Char} (hindents : s.indents = [])
    (hbrackets : s.brackets = []) (hrest : s.head.rest = blanks ++ c :: rest)
    (hblanks : ∀ c ∈ blanks, Text.isMarginChar c = true) (hne : blanks ≠ [])
    (hc : Text.isMarginChar c = false) (hnew : c ≠ '\n') (hhash : c ≠ '#') (hfeed : c ≠ '\x0c')
    (hback : c ≠ '\\') : s.startLine.Sought := by
  obtain ⟨i, hi, hkept, hcolumn, hflat⟩ :=
    indentation_blanks hblanks hc hfeed hback rest ⟨0, 0, 0⟩ s.head.line s.head.column
  have hlength := List.length_pos_of_ne_nil hne
  unfold startLine
  rw [hrest, hi]
  dsimp -zeta only
  extract_lets since blank start
  have hblank : blank = false := by
    simp only [blank]
    split
    next heq => exact absurd (List.cons.inj heq).1 hhash
    next heq => exact absurd (List.cons.inj heq).1 hnew
    next => rfl
  have hsince : since = s := if_neg (Nat.lt_irrefl _)
  have hclosed : start.brackets = [] := by simp [start, hsince, hbrackets]
  rw [hblank, Bool.false_or, hclosed, if_neg (by decide), if_neg (not_not.mpr hkept)]
  exact sought_applyIndentation (by simp [start, hsince, hindents]) (by omega) (by omega) _

theorem startLine_sought (hindents : s.indents = []) (hbrackets : s.brackets = [])
    (hdedents : s.dedents = 0) (hlines : indentsFirst (Text.lines s.head.rest) = true) :
    s.startLine.Sought := by
  rcases indentsFirst_cases hlines with
    ⟨blanks, comment, rest, hrest, hblanks, hnew, hcomment, hlater⟩ |
      ⟨blanks, c, rest, hrest, hblanks, hne, hc, hnew, hhash, hfeed, hback⟩
  · exact startLine_blank hindents hbrackets hdedents hrest hblanks hnew hcomment hlater
  · exact startLine_indented hindents hbrackets hrest hblanks hne hc hnew hhash hfeed hback

theorem comment_sought {comment rest : List Char} (hblank : s.blankLine = true)
    (hstart : s.lineStart = false) (hindents : s.indents = []) (hbrackets : s.brackets = [])
    (hdedents : s.dedents = 0) (hrest : s.head.rest = comment ++ '\n' :: rest) (hnew : '\n' ∉ comment)
    (hlines : indentsFirst (Text.lines rest) = true) : s.comment.Sought := by
  have htaken : s.head.rest.takeWhile (· != '\n') = comment := by
    rw [hrest]
    exact Text.firstLine_append_newline hnew rest
  have hleft : s.head.rest.drop comment.length = '\n' :: rest := by
    rw [hrest, List.drop_left]
  have hnext : Seeks { s with head := s.head.skip comment ('\n' :: rest) } :=
    @Seeks.inBlank _ [] rest hstart hblank hindents hbrackets hdedents rfl List.not_mem_nil (.inl rfl)
      hlines
  simp only [LexState.comment, htaken, hleft]
  split
  · split
    · exact hnext
    · rfl
  · exact hnext

theorem lineEnd_sought {rest : List Char} (hblank : s.blankLine = true) (hindents : s.indents = [])
    (hbrackets : s.brackets = []) (hdedents : s.dedents = 0)
    (hlines : indentsFirst (Text.lines rest) = true) : (s.lineEnd rest).Sought := by
  simp only [lineEnd, hblank, Bool.true_or, if_true]
  exact .atLine rfl hindents hbrackets hdedents hlines

theorem step_sought (h : s.Seeks) : s.step.Sought := by
  cases h with
  | atLine hstart hindents hbrackets hdedents hlines =>
    rw [step, if_pos hstart]
    exact startLine_sought hindents hbrackets hdedents hlines
  | @inBlank comment rest hstart hblank hindents hbrackets hdedents hrest hnew hcomment hlines =>
    rw [step, if_neg (by rw [hstart]; decide), if_neg (not_not.mpr hdedents)]
    rcases hcomment with rfl | hhash
    · rw [within, hrest]
      exact lineEnd_sought hblank hindents hbrackets hdedents hlines
    · obtain ⟨more, hmore⟩ := List.head?_eq_some_iff.mp hhash
      rw [within, hrest, hmore]
      exact comment_sought hblank hstart hindents hbrackets hdedents hrest hnew hlines

/-- The tokens of a run go on behind those already taken. -/
theorem prefix_run (fuel : Nat) (taken : List Token) (s : LexState) :
    taken.reverse <+: (run fuel taken s).items := by
  induction fuel generalizing taken s with
  | zero => exact List.prefix_rfl
  | succ fuel ih =>
    have hbehind (t : Token) : taken.reverse <+: (t :: taken).reverse := by
      rw [List.reverse_cons]
      exact List.prefix_append ..
    rw [run]
    split
    next t next _ => exact (hbehind t).trans (ih _ next)
    next next _ => exact ih taken next
    next t _ => exact hbehind t
    next => exact List.prefix_rfl

theorem opensNothing_of_run (fuel : Nat) (h : s.Seeks) {t : Token}
    (ht : (run fuel [] s).items[0]? = some t) : t.opensNothing = true := by
  induction fuel generalizing s with
  | zero => cases ht
  | succ fuel ih =>
    have hsought := step_sought h
    rw [run] at ht
    cases hstep : s.step with
    | token first next =>
      rw [hstep] at ht hsought
      obtain ⟨more, hmore⟩ := prefix_run fuel [first] next
      dsimp only at ht
      rw [← hmore] at ht
      cases ht
      exact hsought
    | silent next =>
      rw [hstep] at ht hsought
      exact ih hsought ht
    | done last =>
      rw [hstep] at hsought
      exact hsought.elim
    | stop stop =>
      rw [hstep] at ht
      cases ht

end LexState

/-- The first token of a text that starts with an indent opens nothing. -/
theorem Tokens.opensNothing_of_indentsFirst {typeComments : Bool} {start : Position} {cs : List Char}
    (h : indentsFirst (Text.lines cs) = true) {t : Token}
    (ht : (Tokens.ofChars typeComments start cs).items[0]? = some t) : t.opensNothing = true := by
  have hlines :
      indentsFirst (Text.lines (if cs.getLast? = some '\n' then cs else cs ++ ['\n'])) = true := by
    split
    · exact h
    · rw [indentsFirst_of_newline, h]
  exact LexState.opensNothing_of_run _ (.atLine rfl rfl rfl rfl hlines) ht

/-- A text that starts with an indent is no program, whether or not its comments declare types. -/
theorem readChars_ne_ok (typeComments : Bool) (stoodFor : List (List Char)) {cs : List Char}
    (h : indentsFirst (Text.lines cs) = true) (tree : Stmt) :
    readChars typeComments stoodFor cs ≠ .ok tree := by
  refine Surroundings.read_ne_ok _ (fun t ht => ?_) tree
  exact Tokens.opensNothing_of_indentsFirst h (by simpa using ht)

theorem programOfChars_ne_ok (stoodFor : List (List Char)) {cs : List Char}
    (h : indentsFirst (Text.lines (Text.unifyLineEnds cs)) = true) (tree : Stmt) :
    programOfChars stoodFor cs ≠ .ok tree := by
  intro hok
  obtain ⟨typeComments, shown, hread⟩ := readChars_of_programOfChars hok
  exact readChars_ne_ok typeComments shown (by rw [indentsFirst_of_newline, h]) tree hread

end SourceConventions.Syntax
