import Mathlib.Data.List.DropRight
import SourceConventions.Proofs.Comments.Scanning

/-!
# Comments that are looked for line by line

Where the lines of a text can be read, looking for its comments finds those that are read. It fails
only if a line goes back to an indentation not seen before, or if the last line is joined to one
that is missing.
-/

namespace SourceConventions.Syntax.Comment

variable {body e : List Char} {n : Nat} {s : ScanState} {r : LineReading} {m : LineMode}

/-! ### Lines -/

/-- Measuring an indentation steps over blanks. -/
theorem measure_append (he : e ∈ lineEnds) (column : Nat) :
    ∃ column' body', measure column (body ++ e) = (column', body' ++ e) ∧
      measure column body = (column', body') ∧ body' <:+ body ∧
      readLine .code body = readLine .code body' ∧
      ∀ r : LineReading, r.joins body = r.joins body' := by
  induction body generalizing column with
  | nil =>
    refine ⟨column, [], ?_, rfl, List.suffix_rfl, rfl, fun _ => rfl⟩
    rcases mem_lineEnds.mp he with rfl | rfl | rfl <;> rfl
  | cons c rest ih =>
    have hblank {next : Nat} (hc : isPlain c = true) (hback : c ≠ '\\')
        (hstep : ∀ more, measure column (c :: more) = measure next more) :
        ∃ column' body', measure column (c :: rest ++ e) = (column', body' ++ e) ∧
          measure column (c :: rest) = (column', body') ∧ body' <:+ c :: rest ∧
          readLine .code (c :: rest) = readLine .code body' ∧
          ∀ r : LineReading, r.joins (c :: rest) = r.joins body' := by
      obtain ⟨column', body', hends, hmeasure, hsuffix, hread, hjoins⟩ := ih next
      refine ⟨column', body', (hstep _).trans hends, (hstep _).trans hmeasure,
        hsuffix.trans (List.suffix_cons c rest), (readLine_of_isPlain hc rest).trans hread, ?_⟩
      exact fun r => (r.joins_behind hback List.suffix_rfl).trans (hjoins r)
    by_cases hspace : c = ' '
    · subst hspace
      exact hblank (by decide) (by decide) fun _ => rfl
    by_cases htab : c = '\t'
    · subst htab
      exact hblank (by decide) (by decide) fun _ => rfl
    by_cases hfeed : c = '\x0c'
    · subst hfeed
      exact hblank (by decide) (by decide) fun _ => rfl
    have hstays (more : List Char) : measure column (c :: more) = (column, c :: more) := by
      rw [measure]
      · exact fun _ h => hspace (List.cons.inj h).1
      · exact fun _ h => htab (List.cons.inj h).1
      · exact fun _ h => hfeed (List.cons.inj h).1
    exact ⟨column, c :: rest, hstays _, hstays _, List.suffix_rfl, rfl, fun _ => rfl⟩

/-- A comment alone on its line is taken without the line end. -/
theorem reverse_dropWhile_append (he : e ∈ lineEnds) (hbody : OneLine body) :
    ((body ++ e).reverse.dropWhile fun d => d == '\n' || d == '\r').reverse = body := by
  have hself : body.rdropWhile (fun d => d == '\n' || d == '\r') = body := by
    refine List.rdropWhile_eq_self_iff.mpr fun hne => ?_
    have hlast := List.getLast_mem hne
    have hnew : body.getLast hne ≠ '\n' := fun heq => hbody.1 (heq ▸ hlast)
    have hreturn : body.getLast hne ≠ '\r' := fun heq => hbody.2 (heq ▸ hlast)
    simp [hnew, hreturn]
  rcases mem_lineEnds.mp he with rfl | rfl | rfl
  · rw [List.append_nil]
    exact hself
  · simpa [List.rdropWhile] using hself
  · simpa [List.rdropWhile] using hself

/-- What comes of a line at which a number of indentations are open: a fault if a statement starts
at a column that is not, and what is read in the line otherwise. -/
def Passed (n : Nat) (s : ScanState) (body e : List Char) (r : LineReading) (column : Option Nat)
    (result : Except CommentFault (ScanState × List Comment)) : Prop :=
  match enter? s.indents column with
  | none => result = .error (.unevenDedent n)
  | some indents => ∃ s', result = .ok (s', r.comments n) ∧ { s with indents }.Scanned body e r s'

theorem passed_of_none {column : Option Nat} {s' : ScanState}
    {result : Except CommentFault (ScanState × List Comment)} (hcolumn : column = none)
    (hresult : result = .ok (s', r.comments n)) (h : s.Scanned body e r s') :
    Passed n s body e r column result := by
  subst hcolumn
  exact ⟨s', hresult, h⟩

theorem passed_of_some {column : Nat} {s' : ScanState} {result : ScanState × List Comment}
    (hresult : result = (s', r.comments n))
    (h : { s with indents := opened s.indents column }.Scanned body e r s') :
    Passed n s body e r (some column)
      (if leaps s.indents column then .error (.unevenDedent n) else .ok result) := by
  unfold Passed enter?
  dsimp only
  by_cases hleaps : leaps s.indents column = true
  · rw [if_pos hleaps, if_pos hleaps]
  · rw [if_neg hleaps, if_neg hleaps]
    exact ⟨s', congrArg Except.ok hresult, h⟩

theorem length_append_lt {rest : List Char} (h : rest <:+ body) (e : List Char) :
    (rest ++ e).length < (body ++ e).length + 1 := by
  have hlength := h.length_le
  rw [List.length_append, List.length_append]
  omega

theorem scanStatement_append (he : e ∈ lineEnds) (hbody : OneLine body)
    (hread : readLine .code body = some r) (hend : e = [] → r.mode = .code) (hs : s.Knows .code)
    (hcontinued : s.continued = false) :
    Passed n s body e r (startColumn? body) (scanStatement n s (body ++ e)) := by
  obtain ⟨column, body', hends, hmeasure, hsuffix, hsame, hjoins⟩ := measure_append he 0
  rw [hsame] at hread
  have hbody' := hbody.suffix hsuffix
  unfold scanStatement startColumn?
  rw [hends, hmeasure]
  dsimp only
  cases body' with
  | nil =>
    rw [readLine] at hread
    cases hread
    have hself : s.Scanned body e ⟨none, .code, 0⟩ s :=
      scanned_self hs hcontinued rfl rfl ((hjoins _).trans (LineReading.joins_nil _))
    refine passed_of_none rfl ?_ hself
    rcases mem_lineEnds.mp he with rfl | rfl | rfl <;> rfl
  | cons c rest =>
    obtain ⟨hnew, hreturn⟩ := hbody'.head
    rw [List.cons_append]
    dsimp only
    have hmore : ¬(c = '\n' ∨ c = '\r') := not_or.mpr ⟨hnew, hreturn⟩
    rw [if_neg hmore]
    by_cases hc : c = '#'
    · subst hc
      rw [readLine_code_comment] at hread
      cases hread
      have hself : s.Scanned body e ⟨some ('#' :: rest), .code, 0⟩ s :=
        scanned_self hs hcontinued rfl rfl (by simp [LineReading.joins])
      refine passed_of_none (if_pos rfl) ?_ hself
      rw [if_pos rfl, ← List.cons_append, reverse_dropWhile_append he hbody']
      rfl
    · rw [if_neg hc, if_neg hc]
      obtain ⟨s', hscan, hscanned⟩ := follows_of_oneLine he hbody' (length_append_lt hsuffix e)
        { s with indents := opened s.indents column } r hread hend hs hcontinued
      refine passed_of_some hscan ⟨hscanned.knows, hscanned.depth, ?_, hscanned.indents⟩
      rw [hscanned.joined, hjoins]

/-- A text that goes on from an earlier line and is closed. -/
theorem passed_of_closed {q : Quote} {rest : List Char} {column : Option Nat} (he : e ∈ lineEnds)
    (hbody : OneLine body) (hrest : q.char :: rest <:+ body) (hread : readLine .code rest = some r)
    (hend : e = [] → r.mode = .code) (hcontinued : s.continued = false) (hcolumn : column = none) :
    Passed n s body e r column
      (.ok (scanRest n (body ++ e).length ((body ++ e).length + 1)
        { s with openText := none, needsMark := false } (rest ++ e))) := by
  have hsuffix : rest <:+ body := (List.suffix_cons q.char rest).trans hrest
  have hfollows : Follows n (body ++ e).length e ((body ++ e).length + 1) rest :=
    follows_of_oneLine he (hbody.suffix hsuffix) (length_append_lt hsuffix e)
  obtain ⟨s', hscan, hscanned⟩ := follows_closed hfollows hrest hread hend
    (s := { s with openText := none, needsMark := false }) ⟨rfl, rfl⟩ hcontinued
  refine passed_of_none hcolumn (congrArg Except.ok hscan) ?_
  exact ⟨hscanned.knows, hscanned.depth, hscanned.joined, hscanned.indents⟩

theorem statementColumn?_of_ne {depth : Int} {continued : Bool} (h : m ≠ .code) :
    statementColumn? m depth continued body = none := if_neg fun hall => h hall.1

theorem scanLine_code (he : e ∈ lineEnds) (hbody : OneLine body)
    (hread : readLine .code body = some r) (hend : e = [] → r.mode = .code) (hs : s.Knows .code) :
    Passed n s body e r (statementColumn? .code s.depth s.continued body)
      (scanLine n s (body ++ e)) := by
  unfold scanLine
  split
  next t hopen =>
    rw [hs.1] at hopen
    cases hopen
  by_cases hstatement : s.depth = 0 ∧ !s.continued
  · have hcolumn : statementColumn? .code s.depth s.continued body = startColumn? body :=
      if_pos ⟨rfl, hstatement⟩
    rw [if_pos hstatement, hcolumn]
    exact scanStatement_append he hbody hread hend hs (by simpa using hstatement.2)
  · rw [if_neg hstatement]
    obtain ⟨s', hscan, hscanned⟩ := follows_of_oneLine he hbody (length_append_lt List.suffix_rfl e)
      { s with continued := false } r hread hend hs rfl
    refine passed_of_none (if_neg fun h => hstatement h.2) (congrArg Except.ok hscan) ?_
    exact ⟨hscanned.knows, hscanned.depth, hscanned.joined, hscanned.indents⟩

theorem scanLine_short {q : Quote} (he : e ∈ lineEnds) (hbody : OneLine body)
    (hread : readLine (.short q) body = some r) (hend : e = [] → r.mode = .code)
    (hs : s.Knows (.short q)) :
    Passed n s body e r (statementColumn? (.short q) s.depth s.continued body)
      (scanLine n s (body ++ e)) := by
  have hcolumn : statementColumn? (.short q) s.depth s.continued body = none :=
    statementColumn?_of_ne LineMode.noConfusion
  obtain ⟨hcontinued, -, line, column, hopen⟩ := id hs
  unfold scanLine
  rw [hopen]
  dsimp only
  rw [if_neg Bool.false_ne_true]
  rcases shortEnd_agrees he body hbody hread with
    ⟨rest, hrest, hread, -, hbehind⟩ | ⟨rfl, hmarked, -, hbehind⟩
  · rw [hbehind]
    exact passed_of_closed he hbody hrest hread hend hcontinued hcolumn
  · have hmarked : isMarked (body ++ e) = true :=
      isMarked_append he (fun hempty => LineMode.noConfusion (hend hempty)) hmarked
    rw [hbehind]
    dsimp only
    rw [if_neg (by simp [hmarked])]
    exact passed_of_none hcolumn rfl (scanned_goesOn LineMode.noConfusion hs hcontinued rfl rfl)

theorem scanLine_long {q : Quote} (he : e ∈ lineEnds) (hbody : OneLine body)
    (hread : readLine (.long q) body = some r) (hend : e = [] → r.mode = .code)
    (hs : s.Knows (.long q)) :
    Passed n s body e r (statementColumn? (.long q) s.depth s.continued body)
      (scanLine n s (body ++ e)) := by
  have hcolumn : statementColumn? (.long q) s.depth s.continued body = none :=
    statementColumn?_of_ne LineMode.noConfusion
  obtain ⟨hcontinued, hneeds, line, column, hopen⟩ := id hs
  unfold scanLine
  rw [hopen]
  dsimp only
  rw [if_pos rfl]
  rcases longEnd he body hbody with ⟨rest, hrest, hbehind, hsame⟩ | ⟨hbehind, hsame⟩
  · rw [hbehind]
    exact passed_of_closed he hbody hrest (hsame ▸ hread) hend hcontinued hcolumn
  · rw [hbehind]
    rw [hsame] at hread
    cases hread
    dsimp only
    rw [if_neg (by simp [hneeds])]
    exact passed_of_none hcolumn rfl (scanned_goesOn LineMode.noConfusion hs hcontinued rfl rfl)

/-- A line that can be read is looked through, unless a statement leaps in it. -/
theorem scanLine_append (he : e ∈ lineEnds) (hbody : OneLine body)
    (hread : readLine m body = some r) (hend : e = [] → r.mode = .code) (hs : s.Knows m) :
    Passed n s body e r (statementColumn? m s.depth s.continued body)
      (scanLine n s (body ++ e)) := by
  cases m with
  | code => exact scanLine_code he hbody hread hend hs
  | short q => exact scanLine_short he hbody hread hend hs
  | long q => exact scanLine_long he hbody hread hend hs

/-! ### Texts -/

/-- The lines of a text with the line feeds that end them; an empty last line is none. -/
def ended : List (List Char) → List (List Char)
  | [] => []
  | [line] => if line.isEmpty then [] else [line]
  | line :: rest => (line ++ ['\n']) :: ended rest

theorem ended_cons {rest : List (List Char)} (h : rest ≠ []) (line : List Char) :
    ended (line :: rest) = (line ++ ['\n']) :: ended rest := by
  cases rest with
  | nil => exact absurd rfl h
  | cons next more => rfl

theorem endedLines_eq (taken cs : List Char) (h : '\n' ∉ taken) :
    endedLines taken cs = ended (Text.linesFrom taken cs) := by
  induction cs generalizing taken with
  | nil => simp [endedLines, ended, Text.linesFrom]
  | cons c rest ih =>
    rw [endedLines, Text.linesFrom]
    split
    next hc =>
      subst hc
      have hrest := ih [] List.not_mem_nil
      have hcons : ended (taken.reverse :: Text.linesFrom [] rest) =
          (taken.reverse ++ ['\n']) :: ended (Text.linesFrom [] rest) :=
        ended_cons (Text.lines_ne_nil rest) taken.reverse
      rw [hrest, hcons]
      simp
    next hc => exact ih (c :: taken) fun hmem => (List.mem_cons.mp hmem).elim (hc ∘ Eq.symm) h

/-- What comes of lines with a layout at which a number of indentations are open. -/
def found (last : Nat) (indents : List Nat) (l : Layout) (comments : List Comment) :
    Except CommentFault (List Comment) :=
  match leap? indents l.starts with
  | some line => .error (.unevenDedent line)
  | none => if l.joined then .error (.openStatement last) else .ok comments

variable {rest : List (List Char)} {line : List Char} {g : Gathered}

theorem scanLines_nil (hs : s.Knows .code) (hdepth : s.depth = 0) :
    scanLines s n [] = found n s.indents ⟨[], s.continued⟩ [] := by
  unfold scanLines
  rw [hs.1]
  dsimp only
  cases hcontinued : s.continued with
  | false => exact if_pos ⟨hdepth, rfl⟩
  | true => exact if_neg (by simp)

/-- A line that is looked through goes before those behind it. -/
theorem scanLines_cons {column : Option Nat} {l : Layout} {last : Nat} {comments : List Comment}
    (hline : Passed n s body e r column (scanLine n s (body ++ e)))
    (hrest : ∀ (indents : List Nat) (s' : ScanState), { s with indents }.Scanned body e r s' →
      scanLines s' (n + 1) rest = found last indents l comments) :
    scanLines s n ((body ++ e) :: rest) =
      found last s.indents (l.behind n column) (r.comments n ++ comments) := by
  unfold scanLines found Layout.behind
  rw [leap?_append]
  unfold Passed at hline
  cases henter : enter? s.indents column with
  | none =>
    rw [henter] at hline
    dsimp only at hline ⊢
    rw [hline]
    rfl
  | some indents =>
    rw [henter] at hline
    obtain ⟨s', hscan, hscanned⟩ := hline
    rw [hscan]
    dsimp only [bind, Except.bind]
    rw [hrest indents s' hscanned, found]
    cases leap? indents l.starts with
    | some line => rfl
    | none => cases l.joined <;> rfl

/-- A line that can be read goes before those behind it, and so does its layout. -/
theorem scanLines_line {ls : List (List Char)} {last : Nat} {comments : List Comment}
    (he : e ∈ lineEnds) (hbody : OneLine body) (hread : readLine m body = some r)
    (hend : e = [] → r.mode = .code) (hs : s.Knows m) (hsome : (body.isEmpty && ls.isEmpty) = false)
    (hlast : e.isEmpty = ls.isEmpty)
    (hrest : ∀ s' : ScanState, s'.Knows r.mode → s'.depth = s.depth + r.change →
      scanLines s' (n + 1) rest =
        found last s'.indents (layout (n + 1) r.mode s'.depth s'.continued ls) comments) :
    scanLines s n ((body ++ e) :: rest) =
      found last s.indents (layout n m s.depth s.continued (body :: ls)) (r.comments n ++ comments) := by
  rw [layout, hsome, if_neg Bool.false_ne_true, hread]
  refine scanLines_cons (scanLine_append he hbody hread hend hs) fun indents s' h => ?_
  rw [hrest s' h.knows h.depth, h.indents, h.depth, h.joined, hlast]

theorem readLines_cons_eq_some {ls : List (List Char)}
    (h : readLines n m (line :: ls) = some g) :
    ∃ r g', readLine m line = some r ∧ readLines (n + 1) r.mode ls = some g' ∧
      g = g'.behind (r.comments n) r.change := by
  obtain ⟨r, hr, h⟩ := Option.bind_eq_some_iff.mp h
  obtain ⟨g', hg, rfl⟩ := Option.map_eq_some_iff.mp h
  exact ⟨r, g', hr, hg, rfl⟩

theorem readLines_nil_eq_some (h : readLines n m [] = some g) : m = .code ∧ g = ⟨[], 0⟩ := by
  unfold readLines at h
  split at h
  next hm =>
    cases h
    exact ⟨hm, rfl⟩
  next => cases h

theorem readLines_singleton_nil_eq_some (h : readLines n m [[]] = some g) :
    m = .code ∧ g = ⟨[], 0⟩ :=
  readLines_nil_eq_some (readLines_append_nil n m [] ▸ h)

theorem oneLine_withoutReturn (hnew : '\n' ∉ line) (hreturn : '\r' ∉ Text.withoutReturn line) :
    OneLine (Text.withoutReturn line) := by
  refine ⟨fun hmem => hnew ?_, hreturn⟩
  rcases Text.eq_withoutReturn line with heq | heq
  · exact heq ▸ hmem
  · exact heq ▸ List.mem_append_left _ hmem

/-- A line of several with its line end. -/
theorem exists_lineEnd (line : List Char) :
    ∃ e, e ∈ lineEnds ∧ e ≠ [] ∧ line ++ ['\n'] = Text.withoutReturn line ++ e := by
  rcases Text.eq_withoutReturn line with heq | heq
  · exact ⟨['\n'], by simp [lineEnds], by simp, congrArg (· ++ ['\n']) heq⟩
  · refine ⟨['\r', '\n'], by simp [lineEnds], by simp, ?_⟩
    exact (congrArg (· ++ ['\n']) heq).trans (List.append_assoc _ _ _)

/-- The last line has no line end of its own, and is none if it is empty. -/
theorem scanLines_lastLine (hline : OneLine line) (hread : readLines n m [line] = some g)
    (hs : s.Knows m) (hdepth : s.depth + g.change = 0) :
    scanLines s n (ended [line]) = found (n + (ended [line]).length) s.indents
      (layout n m s.depth s.continued [line]) g.comments := by
  cases line with
  | nil =>
    obtain ⟨rfl, rfl⟩ := readLines_singleton_nil_eq_some hread
    exact scanLines_nil hs (by simpa using hdepth)
  | cons c more =>
    obtain ⟨r, g', hr, hg, rfl⟩ := readLines_cons_eq_some hread
    obtain ⟨hmode, rfl⟩ := readLines_nil_eq_some hg
    have hlines : scanLines s n [c :: more ++ []] = found (n + 1) s.indents
        (layout n m s.depth s.continued [c :: more]) (r.comments n ++ []) := by
      refine scanLines_line (by simp [lineEnds]) hline hr (fun _ => hmode) hs rfl rfl
        fun s' hs' hdepth' => scanLines_nil (hmode ▸ hs') ?_
      rw [hdepth']
      simpa [Gathered.behind] using hdepth
    rwa [List.append_nil] at hlines

/-- What comes of lines that can be read and close all brackets is told by their layout. -/
theorem scanLines_of_readLines {ls : List (List Char)} (hnew : ∀ l ∈ ls, '\n' ∉ l)
    (hreturns : Text.ReturnsLast ls) (hread : readLines n m (ls.map Text.withoutReturn) = some g)
    (hs : s.Knows m) (hdepth : s.depth + g.change = 0) :
    scanLines s n (ended ls) = found (n + (ended ls).length) s.indents
      (layout n m s.depth s.continued (ls.map Text.withoutReturn)) g.comments := by
  induction ls generalizing n m s g with
  | nil =>
    obtain ⟨rfl, rfl⟩ := readLines_nil_eq_some hread
    exact scanLines_nil hs (by simpa using hdepth)
  | cons line rest ih =>
    obtain ⟨hline, hrest⟩ := List.forall_mem_cons.mp hnew
    cases rest with
    | nil =>
      have hsame : Text.withoutReturn line = line :=
        if_neg fun hlast => hreturns (List.mem_of_getLast? hlast)
      rw [List.map_singleton, hsame] at hread ⊢
      exact scanLines_lastLine ⟨hline, hreturns⟩ hread hs hdepth
    | cons next more =>
      obtain ⟨r, g', hr, hg, rfl⟩ := readLines_cons_eq_some hread
      obtain ⟨e, he, hne, hsplit⟩ := exists_lineEnd line
      have hbody := oneLine_withoutReturn hline hreturns.1
      rw [ended_cons (List.cons_ne_nil _ _), hsplit]
      have hlast : n + ((Text.withoutReturn line ++ e) :: ended (next :: more)).length =
          n + 1 + (ended (next :: more)).length := by
        rw [List.length_cons]
        omega
      rw [hlast]
      refine scanLines_line he hbody hr (fun h => absurd h hne) hs (Bool.and_false _)
        (by simpa using hne) fun s' hs' hdepth' => ?_
      refine ih hrest hreturns.2 hg hs' ?_
      rw [hdepth', Int.add_assoc]
      exact hdepth

/-- Looking for the comments of a text whose lines can be read and close all brackets finds those
that are read in them if the layout of the text is even, and nothing otherwise. -/
theorem ofText_of_readLines {text : String} {comments : List Comment}
    (hreturns : Text.returnsEndLines text.toList = true)
    (hread : readLines 1 .code ((Text.lines text.toList).map Text.withoutReturn) =
      some ⟨comments, 0⟩) :
    ((Layout.ofText text).Even → ofText text = .ok comments) ∧
      (¬ (Layout.ofText text).Even → ∃ f, ofText text = .error f) := by
  have hlines : endedLines [] text.toList = ended (Text.lines text.toList) :=
    endedLines_eq [] text.toList List.not_mem_nil
  have hnew : ∀ l ∈ Text.lines text.toList, '\n' ∉ l := fun l => Text.notMem_of_mem_lines
  have hfound : ofText text = found (1 + (ended (Text.lines text.toList)).length) [0]
      (Layout.ofText text) comments := by
    rw [ofText, hlines]
    exact scanLines_of_readLines hnew (Text.returnsLast_of_returnsEndLines hreturns) hread ⟨rfl, rfl⟩
      rfl
  have huneven : leap? [0] (Layout.ofText text).starts = none ↔ ¬ Uneven (Layout.ofText text).starts :=
    leap?_eq_none_iff open_nil not_uneven_nil
  rw [hfound, found, Layout.Even, ← huneven]
  cases leap? [0] (Layout.ofText text).starts with
  | some line => exact ⟨fun h => (nomatch h.1), fun _ => ⟨_, rfl⟩⟩
  | none =>
    cases (Layout.ofText text).joined with
    | true => exact ⟨fun h => (nomatch h.2), fun _ => ⟨_, rfl⟩⟩
    | false => exact ⟨fun _ => rfl, fun h => absurd ⟨rfl, rfl⟩ h⟩

end SourceConventions.Syntax.Comment
