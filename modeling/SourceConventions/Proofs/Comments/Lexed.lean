import SourceConventions.Proofs.Comments.Stepping
import SourceConventions.Syntax.Program

/-!
# Comments between tokens

The comments of a program are what its tokens leave out. A step of the cutting of a text into tokens
reads on as the lines of the text are read, so that a text whose tokens end with an end mark has
been read line by line to its end, and has closed its brackets.
-/

namespace SourceConventions.Syntax

namespace LexState

open Lexing

/-- The comment that the next step steps over. -/
def comment? (s : LexState) : Option Comment :=
  if s.lineStart || s.dedents != 0 then none
  else
    match s.head.rest with
    | '#' :: rest => some ⟨s.head.line, '#' :: Text.firstLine rest⟩
    | _ => none

/-- The comments that a number of steps step over. -/
def comments : Nat → LexState → List Comment
  | 0, _ => []
  | fuel + 1, s =>
    s.comment?.toList ++
      match s.step with
      | .token _ next => comments fuel next
      | .silent next => comments fuel next
      | .done _ => []
      | .stop _ => []

/-- A state is read as a later one is, behind the comment that is stepped over in between. -/
def Leads (s next : LexState) : Prop :=
  readFrom .code s.head.line s.head.rest =
    (readFrom .code next.head.line next.head.rest).map
      (·.behind s.comment?.toList (next.brackets.length - s.brackets.length))

/-- What a step may be at a state: it leads on, or stands at the end with all brackets closed. -/
def Step.Sound (s : LexState) : Step → Prop
  | .token t next => t.kind ≠ .endMark ∧ s.Leads next
  | .silent next => s.Leads next
  | .done _ => s.comment? = none ∧ s.head.rest = [] ∧ s.brackets = []
  | .stop _ => True

variable {s next : LexState}

@[simp]
theorem kind_tokenAt (s : LexState) (kind : TokenKind) (lexeme : List Char) (pos : Position) :
    (s.tokenAt kind lexeme pos).kind = kind := rfl

theorem comment?_of_lineStart (h : s.lineStart = true) : s.comment? = none := by
  simp [comment?, h]

theorem comment?_of_dedents (h : s.dedents ≠ 0) : s.comment? = none := by
  simp [comment?, h]

theorem comment?_eq_none (h : ∀ rest, s.head.rest ≠ '#' :: rest) : s.comment? = none := by
  unfold comment?
  split
  · rfl
  · split
    next rest hrest => exact absurd hrest (h rest)
    next => rfl

theorem comment?_of_head {c : Char} {rest : List Char} (hrest : s.head.rest = c :: rest)
    (hc : c ≠ '#') : s.comment? = none := by
  refine comment?_eq_none fun more hmore => hc ?_
  rw [hrest] at hmore
  exact (List.cons.inj hmore).1

theorem Leads.of_readFrom_eq (hnone : s.comment? = none) (hbrackets : next.brackets = s.brackets)
    (h : readFrom .code s.head.line s.head.rest = readFrom .code next.head.line next.head.rest) :
    s.Leads next := by
  rw [Leads, hnone, hbrackets, h]
  simp

theorem applyIndentation_sound {column flat line : Nat} (hnone : s.comment? = none)
    (hbrackets : next.brackets = s.brackets)
    (h : readFrom .code s.head.line s.head.rest = readFrom .code next.head.line next.head.rest) :
    (next.applyIndentation column flat line).Sound s := by
  have hleads {t : LexState} (hhead : t.head = next.head) (ht : t.brackets = next.brackets) :
      s.Leads t := .of_readFrom_eq hnone (ht.trans hbrackets) (hhead ▸ h)
  unfold applyIndentation
  split
  next topColumn topFlat _ =>
    split
    · split
      · exact hleads rfl rfl
      · trivial
    · split
      · split
        · trivial
        · split
          · trivial
          · exact ⟨by simp, hleads rfl rfl⟩
      · extract_lets left
        split
        next newColumn newFlat _ =>
          split
          · trivial
          · split
            · trivial
            · exact hleads rfl rfl

theorem startLine_sound (hstart : s.lineStart = true) : s.startLine.Sound s := by
  have hnone := comment?_of_lineStart hstart
  unfold startLine
  split
  · trivial
  next i head hindentation =>
    have hread := readFrom_of_indentation hindentation
    extract_lets since blank start
    have hbrackets : start.brackets = s.brackets := by
      simp only [start, since]
      split <;> rfl
    split
    · exact .of_readFrom_eq hnone hbrackets hread
    · split
      · exact applyIndentation_sound hnone hbrackets hread
      · exact applyIndentation_sound hnone hbrackets hread

/-! ### Tokens of a line -/

theorem word_sound (hnone : s.comment? = none) : s.word.Sound s := by
  unfold word
  extract_lets h taken
  split
  · trivial
  · refine ⟨?_, .of_readFrom_eq hnone rfl ?_⟩
    · show nameOrKeyword _ ≠ .endMark
      unfold nameOrKeyword
      split <;> exact TokenKind.noConfusion
    · exact (StepsOver.takeWhile isWordChar_telling s.head.rest).readFrom_eq s.head.line

theorem textToken_sound (hnone : s.comment? = none)
    (hquote : ∃ (q : Quote) (rest : List Char),
      s.head.rest.drop (s.head.rest.takeWhile Char.isAlpha).length = q.char :: rest) :
    s.textToken.Sound s := by
  obtain ⟨q, rest, hrest⟩ := hquote
  unfold textToken
  extract_lets h letters start
  split
  · trivial
  next taken head hliteral =>
    refine ⟨by simp, .of_readFrom_eq hnone rfl ?_⟩
    have hletters := StepsOver.takeWhile (p := Char.isAlpha) (by decide) s.head.rest
    rw [hletters.readFrom_eq]
    exact readFrom_of_textLiteral (h := start) hrest hliteral

theorem numberToken_sound (hnone : s.comment? = none) : s.numberToken.Sound s := by
  unfold numberToken
  extract_lets h
  split
  · trivial
  next taken rest hnumber =>
    refine ⟨by simp, .of_readFrom_eq hnone rfl ?_⟩
    exact (stepsOver_number _ taken rest hnumber).readFrom_eq s.head.line

theorem Leads.of_bracket {c : Char} {rest : List Char} (hrest : s.head.rest = c :: rest)
    (hnew : c ≠ '\n') (hc : c ≠ '#') (hq : quote? c = none) (hline : next.head.line = s.head.line)
    (hnext : next.head.rest = rest)
    (hchange : (next.brackets.length : Int) - s.brackets.length = bracketChange c) :
    s.Leads next := by
  have hnone : s.comment? = none := comment?_of_head hrest hc
  rw [Leads, hrest, hline, hnext, hnone, hchange, readFrom_bracket hnew hc hq]
  rfl

/-- A bracket that opens, one that closes, or another character. -/
theorem bracketChange_cases (c : Char) :
    (c == '(' || c == '[' || c == '\x7b') = true ∧ bracketChange c = 1 ∨
      (c == '(' || c == '[' || c == '\x7b') = false ∧
        ((c == ')' || c == ']' || c == '\x7d') = true ∧ bracketChange c = -1 ∨
          (c == ')' || c == ']' || c == '\x7d') = false ∧ bracketChange c = 0) := by
  by_cases hopen : c = '(' ∨ c = '[' ∨ c = '\x7b'
  · exact .inl ⟨by simpa [or_assoc] using hopen, if_pos hopen⟩
  · refine .inr ⟨by simpa [and_assoc] using hopen, ?_⟩
    by_cases hclose : c = ')' ∨ c = ']' ∨ c = '\x7d'
    · exact .inl ⟨by simpa [or_assoc] using hclose, (if_neg hopen).trans (if_pos hclose)⟩
    · exact .inr ⟨by simpa [and_assoc] using hclose, (if_neg hopen).trans (if_neg hclose)⟩

theorem symbolToken_sound {c : Char} {rest : List Char} (hrest : s.head.rest = c :: rest)
    (hnew : c ≠ '\n') (hc : c ≠ '#') (hq : quote? c = none) : s.symbolToken.Sound s := by
  have hleads {t : LexState} (hline : t.head.line = s.head.line) (ht : t.head.rest = rest)
      (hchange : (t.brackets.length : Int) - s.brackets.length = bracketChange c) : s.Leads t :=
    .of_bracket hrest hnew hc hq hline ht hchange
  unfold symbolToken
  extract_lets h taken next
  have htaken : taken = symbol (c :: rest) := congrArg symbol hrest
  have hnext : next.head.rest = (c :: rest).drop taken.length :=
    congrArg (List.drop taken.length) hrest
  have hline : next.head.line = s.head.line := rfl
  have hsame : next.brackets = s.brackets := rfl
  clear_value next taken
  rcases symbol_cases c rest with hone | ⟨hlong, hover⟩
  · rw [← htaken] at hone
    rw [hone] at hnext ⊢
    dsimp only
    rcases bracketChange_cases c with
      ⟨hopen, hchange⟩ | ⟨hopen, ⟨hclose, hchange⟩ | ⟨hclose, hchange⟩⟩
    · rw [if_pos hopen]
      split
      · trivial
      · exact ⟨by simp, hleads hline hnext (by rw [hchange, List.length_cons]; omega)⟩
    · rw [if_neg (ne_true_of_eq_false hopen), if_pos hclose]
      split
      · trivial
      next opening line more hbrackets =>
        split
        · refine ⟨by simp, hleads hline hnext ?_⟩
          dsimp only
          rw [hchange, hbrackets, List.length_cons]
          omega
        · trivial
    · rw [if_neg (ne_true_of_eq_false hopen), if_neg (ne_true_of_eq_false hclose)]
      split
      · exact ⟨by simp, hleads hline hnext (by rw [hchange, hsame]; omega)⟩
      · trivial
  · rw [← htaken] at hlong hover
    split
    next => exact absurd hlong (by simp)
    next =>
      refine ⟨by simp, .of_readFrom_eq (comment?_of_head hrest hc) hsame ?_⟩
      rw [hrest, hnext, hline]
      exact hover.readFrom_eq s.head.line

/-! ### Comments and line ends -/

theorem comment_sound {rest : List Char} (hrest : s.head.rest = '#' :: rest)
    (hstart : s.lineStart = false) (hdedents : s.dedents = 0) : s.comment.Sound s := by
  have hsome : s.comment? = some ⟨s.head.line, '#' :: Text.firstLine rest⟩ := by
    simp [comment?, hstart, hdedents, hrest]
  have hleads {t : LexState} (hline : t.head.line = s.head.line)
      (ht : t.head.rest = rest.drop (Text.firstLine rest).length) (hbrackets : t.brackets = s.brackets) :
      s.Leads t := by
    rw [Leads, hsome, hrest, hline, ht, hbrackets, readFrom_comment]
    simp
  unfold comment
  extract_lets h taken next
  have htaken : taken = '#' :: Text.firstLine rest := congrArg (List.takeWhile (· != '\n')) hrest
  have hnext : next.head.rest = rest.drop (Text.firstLine rest).length := by
    have hdrop : next.head.rest = ('#' :: rest).drop taken.length :=
      congrArg (List.drop taken.length) hrest
    rw [hdrop, htaken]
    rfl
  split
  next body _ =>
    split
    · exact hleads rfl hnext rfl
    · exact ⟨by simp, hleads rfl hnext rfl⟩
  next => exact hleads rfl hnext rfl

theorem lineEnd_sound {rest : List Char} (hrest : s.head.rest = '\n' :: rest) :
    (s.lineEnd rest).Sound s := by
  have hnone : s.comment? = none := comment?_of_head hrest (by decide)
  have hleads {t : LexState} (hhead : t.head = s.head.step '\n' rest)
      (hbrackets : t.brackets = s.brackets) : s.Leads t := by
    refine .of_readFrom_eq hnone hbrackets ?_
    rw [hrest, hhead, readFrom_newline]
    rfl
  unfold lineEnd
  extract_lets since next
  split
  · exact hleads rfl rfl
  · exact ⟨by simp, hleads rfl rfl⟩

theorem continuation_sound {rest : List Char} (hrest : s.head.rest = '\\' :: rest) :
    (s.continuation rest).Sound s := by
  have hnone : s.comment? = none := comment?_of_head hrest (by decide)
  unfold continuation
  split
  · trivial
  next more _ =>
    refine .of_readFrom_eq hnone rfl ?_
    rw [hrest, readFrom_continuation]
  · trivial

theorem end_sound (hrest : s.head.rest = []) :
    (if s.brackets.isEmpty then Step.done (s.tokenAt .endMark [] ⟨s.head.lastLine, 0⟩)
      else s.stopAt .unexpectedEnd s.head.lastLine).Sound s := by
  split
  next hbrackets =>
    refine ⟨comment?_eq_none fun more hmore => ?_, hrest, List.isEmpty_iff.mp hbrackets⟩
    rw [hrest] at hmore
    cases hmore
  next => trivial

theorem blank_sound {c : Char} {rest : List Char} (hrest : s.head.rest = c :: rest)
    (hc : c = ' ' ∨ c = '\t' ∨ c = '\x0c') :
    (Step.silent { s with head := s.head.step c rest }).Sound s := by
  have hplain : isPlain c = true := by rcases hc with rfl | rfl | rfl <;> decide
  have hstep : s.head.step c rest = ⟨rest, s.head.line, s.head.column + c.utf8Size⟩ :=
    if_neg (by rcases hc with rfl | rfl | rfl <;> decide)
  refine .of_readFrom_eq (comment?_of_head hrest (isPlain_iff.mp hplain).2.1) rfl ?_
  rw [hstep, hrest, readFrom_of_isPlain hplain]

theorem quote_sound {c : Char} {rest : List Char} (hrest : s.head.rest = c :: rest) (hc : c ≠ '#')
    (hquote : c = '"' ∨ c = '\'') : s.textToken.Sound s := by
  refine textToken_sound (comment?_of_head hrest hc) ?_
  rw [hrest]
  rcases hquote with rfl | rfl
  · exact ⟨.double, rest, rfl⟩
  · exact ⟨.single, rest, rfl⟩

theorem within_sound (hstart : s.lineStart = false) (hdedents : s.dedents = 0) :
    s.within.Sound s := by
  unfold within
  split
  next hrest => exact end_sound hrest
  next c rest hrest =>
    split
    next hblank => exact blank_sound hrest (by simpa [or_assoc] using hblank)
    split
    next _ hc =>
      obtain rfl := beq_iff_eq.mp hc
      exact comment_sound hrest hstart hdedents
    next _ hc =>
    have hc : c ≠ '#' := fun heq => hc (beq_iff_eq.mpr heq)
    have hnone : s.comment? = none := comment?_of_head hrest hc
    split
    next hnew =>
      obtain rfl := beq_iff_eq.mp hnew
      exact lineEnd_sound hrest
    next hnew =>
    have hnew : c ≠ '\n' := fun heq => hnew (beq_iff_eq.mpr heq)
    split
    next hback =>
      obtain rfl := beq_iff_eq.mp hback
      exact continuation_sound hrest
    split
    next hquote => exact quote_sound hrest hc (by simpa using hquote)
    next _ hquote =>
    split
    · exact numberToken_sound hnone
    split
    · split
      next hleads => exact textToken_sound hnone (quote_of_leadsToQuote hleads)
      next => exact word_sound hnone
    · refine symbolToken_sound hrest hnew hc ?_
      simp only [Bool.or_eq_true, beq_iff_eq, not_or] at hquote
      simp [quote?, hquote]

theorem step_sound (s : LexState) : s.step.Sound s := by
  unfold step
  split
  next hstart => exact startLine_sound hstart
  next hstart =>
    split
    next hdedents => exact ⟨by simp, .of_readFrom_eq (comment?_of_dedents hdedents) rfl rfl⟩
    next hdedents => exact within_sound (eq_false_of_ne_true hstart) (not_not.mp hdedents)

/-! ### Runs -/

/-- A run that comes to an end mark has stepped over the comments of the text line by line, and has
closed all brackets. -/
theorem readFrom_of_run (fuel : Nat) {taken : List Token} (s : LexState)
    (htaken : ∀ t ∈ taken, t.kind ≠ .endMark)
    (h : ∃ t ∈ (run fuel taken s).items, t.kind = .endMark) :
    readFrom .code s.head.line s.head.rest = some ⟨s.comments fuel, -s.brackets.length⟩ := by
  induction fuel generalizing taken s with
  | zero =>
    obtain ⟨t, ht, hkind⟩ := h
    exact absurd hkind (htaken t (List.mem_reverse.mp ht))
  | succ fuel ih =>
    have hsound := step_sound s
    have hbehind {next : LexState} (hleads : s.Leads next)
        (hnext : readFrom .code next.head.line next.head.rest =
          some ⟨next.comments fuel, -next.brackets.length⟩) :
        readFrom .code s.head.line s.head.rest =
          some ⟨s.comment?.toList ++ next.comments fuel, -s.brackets.length⟩ := by
      rw [hleads, hnext]
      simp only [Option.map_some, Gathered.behind, Option.some.injEq, Gathered.mk.injEq, true_and]
      omega
    rw [comments]
    rw [run] at h
    cases hstep : s.step with
    | token t next =>
      rw [hstep] at h hsound
      refine hbehind hsound.2 (ih next ?_ h)
      exact List.forall_mem_cons.mpr ⟨hsound.1, htaken⟩
    | silent next =>
      rw [hstep] at h hsound
      exact hbehind hsound (ih next htaken h)
    | done t =>
      rw [hstep] at hsound
      obtain ⟨hnone, hrest, hbrackets⟩ := hsound
      rw [hrest, hbrackets, hnone, readFrom_nil]
      rfl
    | stop stop =>
      rw [hstep] at h
      obtain ⟨t, ht, hkind⟩ := h
      exact absurd hkind (htaken t (List.mem_reverse.mp ht))

end LexState

/-- The comments between the tokens of a text. -/
def Tokens.comments (typeComments : Bool) (start : Position) (cs : List Char) : List Comment :=
  let cs := if cs.getLast? = some '\n' then cs else cs ++ ['\n']
  LexState.comments (4 * cs.length + 4)
    ⟨⟨cs, start.line, start.column⟩, true, false, [], 0, [], start.line, typeComments⟩

theorem Tokens.readFrom_eq {typeComments : Bool} {start : Position} {cs : List Char}
    (h : ∃ t ∈ (Tokens.ofChars typeComments start cs).items, t.kind = .endMark) :
    readFrom .code start.line cs = some ⟨Tokens.comments typeComments start cs, 0⟩ := by
  have hrun := LexState.readFrom_of_run _ _ (fun _ ht => absurd ht List.not_mem_nil) h
  have hsame : readFrom .code start.line (if cs.getLast? = some '\n' then cs else cs ++ ['\n']) =
      readFrom .code start.line cs := by
    split
    · rfl
    · exact readFrom_append_newline .code start.line cs
  exact hsame.symm.trans hrun

/-! ### Programs -/

namespace Reading

variable {α β : Type} {s : Surroundings} {c d : Cursor}

theorem bind_eq_found {p : Reading α} {f : α → Reading β} {b : β}
    (h : (p >>= f) s c = .found b d) : ∃ a e, p s c = .found a e ∧ f a s e = .found b d := by
  simp only [bind] at h
  split at h
  next a e hp => exact ⟨a, e, hp, h⟩
  next => cases h
  next => cases h

theorem peek_found {t : Token} (h : peek s c = .found t d) : t ∈ s.tokens := by
  unfold peek at h
  split at h
  next heq =>
    cases h
    exact Array.mem_of_getElem? heq
  next => split at h <;> cases h

theorem token_found {test : Token → Bool} {t : Token} (h : token test s c = .found t d) :
    t ∈ s.tokens ∧ test t = true := by
  obtain ⟨t', e, hpeek, h⟩ := bind_eq_found h
  let move : Reading Token := fun _ c => .found t' { c with index := c.index + 1 }
  by_cases htest : test t' = true
  · have hmove : (if test t' = true then move else failure) = move := if_pos htest
    have hfound : move s e = .found t d := (congrFun (congrFun hmove s) e).symm.trans h
    cases hfound
    exact ⟨peek_found hpeek, htest⟩
  · have hfail : (if test t' = true then move else failure) = failure := if_neg htest
    have habsent : (failure : Reading Token) s e = .found t d :=
      (congrFun (congrFun hfail s) e).symm.trans h
    cases habsent

theorem ofKind_found {kind : TokenKind} {t : Token} (h : ofKind kind s c = .found t d) :
    t ∈ s.tokens ∧ t.kind = kind :=
  (token_found h).imp_right beq_iff_eq.mp

end Reading

/-- The tree of a text is read up to an end mark. -/
theorem endMark_of_moduleText {g : Grammar} {s : Surroundings} {c d : Cursor} {tree : Stmt}
    (h : Grammar.moduleText g s c = .found tree d) : ∃ t ∈ s.tokens, t.kind = .endMark := by
  obtain ⟨statements, e, -, h⟩ := Reading.bind_eq_found h
  obtain ⟨t, e', h, -⟩ := Reading.bind_eq_found h
  exact ⟨t, Reading.ofKind_found h⟩

/-- What has been read has been found in the first attempt. -/
theorem Surroundings.attempt_of_read {α : Type} {s : Surroundings} {p : Reading α} {a : α}
    (h : s.read p = .ok a) : ∃ d, s.attempt false 0 p = .found a d := by
  unfold read at h
  extract_lets refused at h
  split at h
  next d hfound =>
    cases h
    exact ⟨d, hfound⟩
  next => cases h
  next => split at h <;> cases h

theorem readFrom_of_readChars {typeComments : Bool} {stoodFor : List (List Char)} {cs : List Char}
    {tree : Stmt} (h : readChars typeComments stoodFor cs = .ok tree) :
    readFrom .code 1 cs = some ⟨Tokens.comments typeComments ⟨1, 0⟩ cs, 0⟩ := by
  obtain ⟨d, hfound⟩ := Surroundings.attempt_of_read h
  obtain ⟨t, ht, hkind⟩ := endMark_of_moduleText hfound
  exact Tokens.readFrom_eq ⟨t, List.mem_toArray.mp ht, hkind⟩

/-- The characters of a text at the margin, each line of which ends in a line feed. -/
def programChars (text : String) : List Char :=
  Text.unifyLineEnds (Text.withoutMargin text.toList) ++ ['\n']

/-- The tree of a text at the margin is read with or without type comments. -/
theorem readChars_of_programOfChars {stoodFor : List (List Char)} {cs : List Char} {tree : Stmt}
    (h : programOfChars stoodFor cs = .ok tree) :
    ∃ typeComments shown,
      readChars typeComments shown (Text.unifyLineEnds cs ++ ['\n']) = .ok tree := by
  unfold programOfChars at h
  split at h
  · cases h
  · extract_lets cs result at h
    have hresult : result = .ok tree := by
      clear_value result
      split at h
      next tree' =>
        split at h
        · cases h
        · cases h; rfl
      next => cases h
    simp only [result] at hresult
    split at hresult
    next tree' hok =>
      cases hresult
      exact ⟨true, stoodFor, hok⟩
    next =>
      split at hresult
      · exact ⟨false, [], hresult⟩
      · cases hresult

/-- The tree of a text is read from its characters at the margin, with or without type comments. -/
theorem readChars_of_programOf {stoodFor : List (List Char)} {text : String} {tree : Stmt}
    (h : programOf stoodFor text = .ok tree) :
    ∃ typeComments shown, readChars typeComments shown (programChars text) = .ok tree :=
  readChars_of_programOfChars h

end SourceConventions.Syntax
