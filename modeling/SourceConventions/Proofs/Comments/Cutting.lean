import SourceConventions.Proofs.Comments.Pieces

/-!
# The comments of a text are among its pieces

Where the comments of a text can be told, the text is cut into pieces, and what is found is the
comments among them. A line is cut from its start on; a text that it leaves open is cut together
with the lines behind it.
-/

namespace SourceConventions.Syntax.Comment

variable {q : Quote} {c : Char} {run run' rest line more after : List Char} {later later' : Bool}
  {next : Option Char}

/-! ### How texts end in a line -/

/-- What is told by the end of a short text in its first line. -/
def ShortEnd.Tells (q : Quote) (rest : List Char) : ShortEnd → Prop
  | .closed tail => ∃ run, rest = run ++ q.char :: tail ∧ '\n' ∉ run ∧
      ShortRun q (some q.char) false run false
  | .goesOn => rest.getLast? = some '\n' ∧ ∀ next, ShortRun q next false rest true
  | .unclosed => ∃ run tail, rest = run ++ tail ∧ ShortRun q tail.head? false run false ∧
      (tail = [] ∨ tail = ['\\'] ∨ tail.head? = some '\n')

/-- What is stepped over in front of a text does not change its end. -/
theorem ShortEnd.Tells.behind {found : ShortEnd} (part : List Char) (hpart : '\n' ∉ part)
    (hstep : ∀ {next later' run}, run.head?.or next = rest.head? →
      ShortRun q next false run later' → ShortRun q next false (part ++ run) later')
    (h : found.Tells q rest) : found.Tells q (part ++ rest) := by
  cases found with
  | closed tail =>
    obtain ⟨run, rfl, hnew, hrun⟩ := h
    have hhead : run.head?.or (some q.char) = (run ++ q.char :: tail).head? := by
      rw [List.head?_append]
      rfl
    refine ⟨part ++ run, (List.append_assoc _ _ _).symm, ?_, hstep hhead hrun⟩
    exact fun hmem => (List.mem_append.mp hmem).elim hpart hnew
  | goesOn =>
    obtain ⟨hlast, hrun⟩ := h
    have hne : rest ≠ [] := by
      rintro rfl
      cases hlast
    refine ⟨by rw [List.getLast?_append_of_ne_nil _ hne, hlast], fun next => hstep ?_ (hrun next)⟩
    rw [Option.or_of_isSome (by simpa using hne)]
  | unclosed =>
    obtain ⟨run, tail, rfl, hrun, htail⟩ := h
    exact ⟨part ++ run, tail, (List.append_assoc _ _ _).symm, hstep List.head?_append.symm hrun, htail⟩

theorem tells_shortEnd (q : Quote) (hline : IsLine rest more) : (shortEnd q.char rest).Tells q rest := by
  obtain ⟨hquote, hnew, hreturn, -⟩ := q.char_ne
  fun_induction shortEnd q.char rest with
  | case1 => exact ⟨[], [], rfl, .nil false, .inl rfl⟩
  | case2 tail =>
    obtain rfl := (hline.tail (by decide)).of_newline
    exact ⟨rfl, fun next => .joined (.inl rfl) (.nil true)⟩
  | case3 tail =>
    obtain rfl := ((hline.tail (by decide)).tail (by decide)).of_newline
    exact ⟨rfl, fun next => .joined (.inr rfl) (.nil true)⟩
  | case4 d tail hd hreturns ih =>
    refine .behind ['\\', d] (by simpa using Ne.symm hd) (fun hnext h => .escape hd (fun hc => ?_) h)
      (ih ((hline.tail (by decide)).tail hd))
    intro hhead
    obtain ⟨more, rfl⟩ := List.head?_eq_some_iff.mp (hnext.symm.trans hhead)
    exact hreturns more hc rfl
  | case5 tail => exact ⟨[], rfl, List.not_mem_nil, .nil false⟩
  | case6 d tail hmarks hreturns hescape hd hend =>
    rcases hend with rfl | rfl
    · exact ⟨[], '\n' :: tail, rfl, .nil false, .inr (.inr rfl)⟩
    · cases tail with
      | nil => exact ⟨[], ['\\'], rfl, .nil false, .inr (.inl rfl)⟩
      | cons d tail => exact absurd rfl (hescape d tail rfl)
  | case7 d tail hmarks hreturns hescape hd hend ih =>
    obtain ⟨hnew', hback⟩ := not_or.mp hend
    refine .behind [d] (by simpa using Ne.symm hnew') (fun _ h => .plain hd hback hnew' h) ?_
    exact ih (hline.tail hnew')

theorem isMarked_cons (h : c = '\\' → rest ≠ ['\n'] ∧ rest ≠ ['\r', '\n']) :
    isMarked (c :: rest) = isMarked rest := by
  rw [Bool.eq_iff_iff, isMarked_iff, isMarked_iff, List.suffix_cons_iff, List.suffix_cons_iff]
  refine or_congr (or_iff_right fun heq => ?_) (or_iff_right fun heq => ?_)
  · obtain ⟨hc, hrest⟩ := List.cons.inj heq
    exact (h hc.symm).1 hrest.symm
  · obtain ⟨hc, hrest⟩ := List.cons.inj heq
    exact (h hc.symm).2 hrest.symm

/-- What is told by what is left of a later line of a short text behind its end. -/
def LaterEnd (q : Quote) (line : List Char) : Option (List Char) → Prop
  | some tail => ∃ run, line = run ++ q.char :: tail ∧ '\n' ∉ run ∧
      ShortRun q (some q.char) true run true
  | none => (isMarked line = true ∧ ∀ next, ShortRun q next true line true) ∨
      isMarked line = false ∧ ∃ part e, line = part ++ e ∧ ShortRun q e.head? true part true ∧
        (e = [] ∨ e = ['\\'] ∨ e = ['\n'])

theorem LaterEnd.behind {found : Option (List Char)} (part : List Char) (hpart : '\n' ∉ part)
    (hstep : ∀ {next run}, run.head?.or next = line.head? →
      ShortRun q next true run true → ShortRun q next true (part ++ run) true)
    (hmarked : isMarked (part ++ line) = isMarked line) (h : LaterEnd q line found) :
    LaterEnd q (part ++ line) found := by
  cases found with
  | some tail =>
    obtain ⟨run, rfl, hnew, hrun⟩ := h
    have hhead : run.head?.or (some q.char) = (run ++ q.char :: tail).head? := by
      rw [List.head?_append]
      rfl
    refine ⟨part ++ run, (List.append_assoc _ _ _).symm, ?_, hstep hhead hrun⟩
    exact fun hmem => (List.mem_append.mp hmem).elim hpart hnew
  | none =>
    rw [LaterEnd, hmarked]
    rcases h with ⟨hmark, hrun⟩ | ⟨hmark, run, e, rfl, hrun, he⟩
    · have hne : line ≠ [] := by
        rintro rfl
        cases hmark
      refine .inl ⟨hmark, fun next => hstep ?_ (hrun next)⟩
      rw [Option.or_of_isSome (by simpa using hne)]
    · exact .inr ⟨hmark, part ++ run, e, (List.append_assoc _ _ _).symm,
        hstep List.head?_append.symm hrun, he⟩

theorem laterEnd_behindShort? (q : Quote) (hline : IsLine line more) :
    LaterEnd q line (behindShort? q.char line) := by
  fun_induction behindShort? q.char line with
  | case1 => exact .inr ⟨rfl, [], [], rfl, .nil true, .inl rfl⟩
  | case2 tail =>
    obtain rfl := (hline.tail (by decide)).of_newline
    exact .inl ⟨rfl, fun next => .joined (.inl rfl) (.nil true)⟩
  | case3 d tail hd ih =>
    have htail := (hline.tail (by decide)).tail hd
    have hnone {e : List Char} (he : e = ['\n'] ∨ e = ['\r', '\n']) : behindShort? q.char e = none := by
      rcases he with rfl | rfl <;> cases q <;> rfl
    by_cases hback : d = '\\' ∧ (tail = ['\n'] ∨ tail = ['\r', '\n'])
    · obtain ⟨rfl, hend⟩ := hback
      rw [hnone hend]
      rcases hend with rfl | rfl
      · exact .inl ⟨rfl, fun next => .marked (.inl rfl) (.nil true)⟩
      · exact .inl ⟨rfl, fun next => .marked (.inr rfl) (.nil true)⟩
    by_cases hreturn : d = '\r' ∧ tail = ['\n']
    · obtain ⟨rfl, rfl⟩ := hreturn
      rw [hnone (.inl rfl)]
      exact .inl ⟨rfl, fun next => .joined (.inr rfl) (.nil true)⟩
    refine .behind ['\\', d] (by simpa using Ne.symm hd) (fun hnext h => .escape hd (fun hc => ?_) h)
      ?_ (ih htail)
    · intro hhead
      obtain ⟨rest, rfl⟩ := List.head?_eq_some_iff.mp (hnext.symm.trans hhead)
      exact hreturn ⟨hc, by rw [htail.of_newline]⟩
    · have hinner : isMarked (d :: tail) = isMarked tail :=
        isMarked_cons fun hd => not_or.mp fun h => hback ⟨hd, h⟩
      have houter : isMarked ('\\' :: d :: tail) = isMarked (d :: tail) := by
        refine isMarked_cons fun _ => ⟨fun heq => hd (List.cons.inj heq).1, fun heq => ?_⟩
        exact hreturn (List.cons.inj heq)
      exact houter.trans hinner
  | case4 tail => exact ⟨[], rfl, List.not_mem_nil, .nil true⟩
  | case5 tail hescape hd =>
    cases tail with
    | nil => exact .inr ⟨rfl, [], ['\\'], rfl, .nil true, .inr (.inl rfl)⟩
    | cons d tail => exact absurd rfl (hescape d tail rfl)
  | case6 d tail hescape hd hback ih =>
    by_cases hnew : d = '\n'
    · subst hnew
      obtain rfl := hline.of_newline
      exact .inr ⟨rfl, [], ['\n'], rfl, .nil true, .inr (.inr rfl)⟩
    · refine .behind [d] (by simpa using Ne.symm hnew) (fun _ h => .plain hd hback hnew h) ?_
        (ih (hline.tail hnew))
      exact isMarked_cons fun heq => absurd heq hback

/-- What is told by what is left of a line of a long text behind its end. -/
def LongEnds (q : Quote) (line : List Char) : Option (List Char) → Prop
  | some tail => ∃ run, line = run ++ q.char :: q.char :: q.char :: tail ∧ '\n' ∉ run ∧
      LongRun q [q.char, q.char, q.char] run
  | none => ('\n' ∈ line → ∀ after, LongRun q after line) ∧
      ∃ part e, line = part ++ e ∧ LongRun q e part ∧ (e = [] ∨ e = ['\\'])

theorem LongEnds.behind {found : Option (List Char)} (part : List Char) (hpart : '\n' ∉ part)
    (hstep : ∀ {after run}, ([q.char, q.char] <+: run ++ after → [q.char, q.char] <+: line) →
      LongRun q after run → LongRun q after (part ++ run))
    (h : LongEnds q line found) : LongEnds q (part ++ line) found := by
  cases found with
  | some tail =>
    obtain ⟨run, rfl, hnew, hrun⟩ := h
    refine ⟨part ++ run, (List.append_assoc _ _ _).symm, ?_, hstep (fun hquotes => ?_) hrun⟩
    · exact fun hmem => (List.mem_append.mp hmem).elim hpart hnew
    · exact hquotes.trans ⟨tail, by simp⟩
  | none =>
    obtain ⟨hended, run, e, rfl, hrun, he⟩ := h
    refine ⟨fun hmem after => hstep (fun hquotes => ?_) ?_, part ++ run, e,
      (List.append_assoc _ _ _).symm, hstep id hrun, he⟩
    · exact quotes_of_append ((List.mem_append.mp hmem).resolve_left hpart) hquotes
    · exact hended ((List.mem_append.mp hmem).resolve_left hpart) after

theorem longEnds_behindLong? (q : Quote) (hline : IsLine line more) :
    LongEnds q line (behindLong? q.char line) := by
  obtain ⟨hquote, hnew, -⟩ := q.char_ne
  fun_induction behindLong? q.char line with
  | case1 => exact ⟨fun h => absurd h List.not_mem_nil, [], [], rfl, .nil, .inl rfl⟩
  | case2 tail =>
    obtain rfl := (hline.tail (by decide)).of_newline
    exact ⟨fun _ after => .escape .nil, ['\\', '\n'], [], rfl, .escape .nil, .inl rfl⟩
  | case3 d tail hd ih =>
    exact .behind ['\\', d] (by simpa using Ne.symm hd) (fun _ h => .escape h)
      (ih ((hline.tail (by decide)).tail hd))
  | case4 a b tail hquotes =>
    obtain ⟨rfl, rfl⟩ := hquotes
    exact ⟨[], rfl, List.not_mem_nil, .nil⟩
  | case5 a b tail hquotes _ ih =>
    refine .behind [q.char] (by simpa using hnew.symm) (fun hafter h => .plain hquote (fun _ hmore => ?_) h)
      (ih (hline.tail hnew))
    obtain ⟨ha, hb⟩ := List.cons_prefix_cons.mp (hafter hmore)
    exact hquotes ⟨ha.symm, (List.cons_prefix_cons.mp hb).1.symm⟩
  | case6 rest hquotes _ ih =>
    refine .behind [q.char] (by simpa using hnew.symm) (fun hafter h => .plain hquote (fun _ hmore => ?_) h)
      (ih (hline.tail hnew))
    obtain ⟨tail, htail⟩ := hafter hmore
    exact hquotes _ _ tail htail.symm
  | case7 d tail hescape hd ih =>
    by_cases hback : d = '\\'
    · subst hback
      cases tail with
      | nil => exact ⟨fun h => absurd h (by decide), [], ['\\'], rfl, .nil, .inr rfl⟩
      | cons d tail => exact absurd rfl (hescape d tail rfl)
    · by_cases hend : d = '\n'
      · subst hend
        obtain rfl := hline.of_newline
        exact ⟨fun _ _ => .plain hback (fun h => absurd h hd) .nil, ['\n'], [], rfl,
          .plain hback (fun h => absurd h hd) .nil, .inl rfl⟩
      · exact .behind [d] (by simpa using Ne.symm hend)
          (fun _ h => .plain hback (fun heq => absurd heq hd) h) (ih (hline.tail hend))

/-! ### Texts that go on -/

/-- That a text in quotes is left open before a line, with what there is of it. -/
inductive Pending (n : Nat) (s : ScanState) (line : Nat) (armed : Bool) : List Char → Prop
  | short {q : Quote} {startLine column : Nat} {run : List Char}
    (hopen : s.openText = some ⟨q.char, false, startLine, column⟩) (hcontinued : s.continued = false)
    (hmarks : s.needsMark = true) (hline : line + run.count '\n' = n)
    (hended : run.getLast? = some '\n') (honce : ¬ [q.char, q.char] <+: run)
    (hrun : ∀ next, ShortRun q next false run true) : Pending n s line armed (q.char :: run)
  | long {q : Quote} {startLine column : Nat} {run : List Char}
    (hopen : s.openText = some ⟨q.char, true, startLine, column⟩) (hcontinued : s.continued = false)
    (hmarks : s.needsMark = armed) (hline : line + run.count '\n' = n)
    (hended : run.getLast? = some '\n') (hwithin : armed = true → MarkedWithin run)
    (hrun : ∀ after, LongRun q after run) :
    Pending n s line armed (q.char :: q.char :: q.char :: run)

/-- That a text is cut into pieces of which some comments are part. -/
def Cuts (s : Spot) (text : List Char) (comments : List Comment) : Prop :=
  ∃ ps, Cut s text ps ∧ ps.filterMap Piece.comment? = comments

theorem Cuts.unique {s : Spot} {text : List Char} {comments comments' : List Comment} (h : Cuts s text comments)
    (h' : Cuts s text comments') : comments = comments' := by
  obtain ⟨ps, hcut, rfl⟩ := h
  obtain ⟨ps', hcut', rfl⟩ := h'
  rw [hcut.unique hcut' rfl]

theorem Cuts.cons {s s' : Spot} {p : Piece} {comments : List Comment} (hp : Stands s p rest s')
    (h : Cuts s' rest comments) : Cuts s (p.chars ++ rest) (p.comment?.toList ++ comments) := by
  obtain ⟨ps, hcut, rfl⟩ := h
  refine ⟨p :: ps, .cons hp hcut, ?_⟩
  cases hcomment : p.comment? with
  | none => exact List.filterMap_cons_none hcomment
  | some c => exact List.filterMap_cons_some hcomment

theorem Cuts.eq_nil {s : Spot} {comments : List Comment} (h : Cuts s [] comments) : comments = [] := by
  obtain ⟨ps, hcut, rfl⟩ := h
  rw [hcut.eq_nil rfl]
  rfl

/-- Where the line stands to which a number belongs. -/
def lineSpot (n : Nat) (s : ScanState) : Spot :=
  ⟨n, s.depth, decide (s.depth = 0 ∧ s.continued = false), s.needsMark⟩

/-- That what follows a line is cut into pieces, together with a text that the line leaves open. -/
structure Continues (n : Nat) (s : ScanState) (more : List Char) (comments : List Comment) : Prop where
  code : s.openText = none → Cuts (lineSpot n s) more comments
  inside : ∀ line start armed text, Pending n s line armed text →
    Cuts ⟨line, s.depth, start, armed⟩ (text ++ more) comments

/-! ### What is left of a line -/

variable {n size fuel : Nat} {s s' : ScanState} {comments comments' : List Comment}

theorem scanRest_hash (rest : List Char) :
    scanRest n size (fuel + 1) s ('#' :: rest) =
      ((scanRest n size fuel s (rest.dropWhile fun d => d != '\n' && d != '\r')).1,
        ⟨n, '#' :: rest.takeWhile fun d => d != '\n' && d != '\r'⟩ ::
          (scanRest n size fuel s (rest.dropWhile fun d => d != '\n' && d != '\r')).2) := by
  have hdrop (p : Char → Bool) : rest.drop (rest.takeWhile p).length = rest.dropWhile p := by
    have hleft := @List.drop_left _ (rest.takeWhile p) (rest.dropWhile p)
    rwa [List.takeWhile_append_dropWhile] at hleft
  rw [scanRest.eq_def]
  dsimp only
  rw [if_neg (by decide), if_pos rfl, hdrop]

theorem scanRest_lone (h : ¬ ['\n'] <+: rest ∧ ¬ ['\r', '\n'] <+: rest) :
    scanRest n size (fuel + 1) s ('\\' :: rest) = scanRest n size fuel s rest := by
  rw [scanRest.eq_def]
  dsimp only
  rw [if_neg (by decide), if_neg (by decide), if_neg (by decide), if_pos rfl]
  split
  next tail => exact absurd ⟨tail, rfl⟩ h.1
  next tail => exact absurd ⟨tail, rfl⟩ h.2
  next => rfl

/-- What is left of a line is cut into pieces among which are the comments that are found in it. -/
def CutFrom (n size : Nat) (s' : ScanState) (more : List Char) (comments' : List Comment) (fuel : Nat)
    (line : List Char) : Prop :=
  ∀ (start : Bool) (s : ScanState) (comments : List Comment),
    s.openText = none → s.continued = false → IsLine line more →
    (start = true → ∀ d ∈ line.head?, d ∉ [' ', '\t', '\x0c', '\r', '#']) →
    (s'.openText ≠ none → '\n' ∈ line) → scanRest n size fuel s line = (s', comments) →
    Cuts ⟨n, s.depth, start, s.needsMark⟩ (line ++ more) (comments ++ comments')

/-- A piece in front of what is left of a line, which is no line end. -/
theorem CutFrom.behind (part : List Char) {p : Piece}
    (h : CutFrom n size s' more comments' fuel rest) (hopen : s.openText = none)
    (hcontinued : s.continued = false) (hline : IsLine (part ++ rest) more) (hpart : '\n' ∉ part)
    (hended : s'.openText ≠ none → '\n' ∈ part ++ rest)
    (hscan : scanRest n size fuel s rest = (s', comments)) {t : Spot} (hchars : p.chars = part)
    (hp : Stands t p (rest ++ more) ⟨n, s.depth, false, s.needsMark⟩) :
    Cuts t (part ++ rest ++ more) (p.comment?.toList ++ (comments ++ comments')) := by
  subst hchars
  rw [List.append_assoc]
  refine .cons hp (h false s comments hopen hcontinued (hline.of_append _ hpart)
    (fun hfalse => Bool.noConfusion hfalse) (fun hs' => ?_) hscan)
  exact (List.mem_append.mp (hended hs')).resolve_left hpart

theorem CutFrom.literal {part : List Char} (h : CutFrom n size s' more comments' fuel rest)
    (hopen : s.openText = none) (hcontinued : s.continued = false) (hline : IsLine (part ++ rest) more)
    (hpart : '\n' ∉ part) (hended : s'.openText ≠ none → '\n' ∈ part ++ rest)
    (hscan : scanRest n size fuel s rest = (s', comments))
    (hliteral : IsLiteral s.needsMark part (rest ++ more)) (start : Bool) :
    Cuts ⟨n, s.depth, start, s.needsMark⟩ (part ++ rest ++ more) (comments ++ comments') := by
  have hstands := Stands.literal (s := ⟨n, s.depth, start, s.needsMark⟩) hliteral
  rw [List.count_eq_zero_of_not_mem hpart, decide_eq_true hpart, Bool.and_true] at hstands
  exact h.behind part hopen hcontinued hline hpart hended hscan rfl hstands

theorem cutFrom_nil (hcontinues : Continues (n + 1) s' more comments') :
    CutFrom n size s' more comments' (fuel + 1) [] := by
  intro start s comments hopen hcontinued hline _ _ hscan
  obtain rfl := hline.nil_of_nil
  obtain ⟨rfl, rfl⟩ := Prod.mk.inj hscan
  obtain rfl := (hcontinues.code hopen).eq_nil
  exact ⟨[], .nil _, rfl⟩

theorem cutFrom_newline (hcontinues : Continues (n + 1) s' more comments') :
    CutFrom n size s' more comments' (fuel + 1) ('\n' :: rest) := by
  intro start s comments hopen hcontinued hline _ _ hscan
  obtain rfl := hline.of_newline
  rw [scanRest_newline] at hscan
  obtain ⟨rfl, rfl⟩ := Prod.mk.inj hscan
  have hcode := hcontinues.code hopen
  rw [lineSpot, hcontinued] at hcode
  simp only [and_true] at hcode
  exact .cons .lineEnd hcode

theorem cutFrom_hash (h : ∀ part, part <:+ rest → CutFrom n size s' more comments' fuel part) :
    CutFrom n size s' more comments' (fuel + 1) ('#' :: rest) := by
  intro start s comments hopen hcontinued hline hstart hended hscan
  have hfalse : start = false := by
    cases start with
    | false => rfl
    | true => exact absurd (by simp) (hstart rfl '#' rfl)
  subst hfalse
  rw [scanRest_hash] at hscan
  obtain ⟨hs', rfl⟩ := Prod.mk.inj hscan
  have hbody : OneLine (rest.takeWhile fun d => d != '\n' && d != '\r') :=
    ⟨fun hmem => by simpa using List.mem_takeWhile_imp hmem,
      fun hmem => by simpa using List.mem_takeWhile_imp hmem⟩
  have hhead : ∀ d ∈ (rest.dropWhile fun d => d != '\n' && d != '\r').head?, d = '\n' ∨ d = '\r' := by
    intro d hd
    have hnot := List.head?_dropWhile_not (fun d => d != '\n' && d != '\r') rest
    rw [Option.mem_def.mp hd] at hnot
    simpa [or_iff_not_imp_left] using hnot
  have hpart : '\n' ∉ '#' :: rest.takeWhile fun d => d != '\n' && d != '\r' := by
    simpa using hbody.1
  have hsplit := List.takeWhile_append_dropWhile (p := fun d => d != '\n' && d != '\r') (l := rest)
  generalize rest.takeWhile (fun d => d != '\n' && d != '\r') = body at *
  generalize rest.dropWhile (fun d => d != '\n' && d != '\r') = tail at *
  subst hsplit
  refine (h tail (List.suffix_append _ _)).behind ('#' :: body) hopen hcontinued hline hpart hended
    (Prod.ext hs' rfl) (p := .comment ⟨n, '#' :: body⟩) rfl (.comment rfl hbody fun d hd => ?_)
  cases tail with
  | nil =>
    rw [(hline.of_append ('#' :: body) hpart).nil_of_nil] at hd
    cases hd
  | cons e tail => exact hhead d hd

theorem cutFrom_quotes {q : Quote} (hcontinues : Continues (n + 1) s' more comments')
    (h : ∀ part, part <:+ rest → CutFrom n size s' more comments' fuel part) :
    CutFrom n size s' more comments' (fuel + 1) (q.char :: q.char :: q.char :: rest) := by
  intro start s comments hopen hcontinued hline hstart hended hscan
  have hquotes : '\n' ∉ [q.char, q.char, q.char] := by simpa using q.char_ne.2.1.symm
  have hrest : IsLine rest more := hline.of_append _ hquotes
  rw [scanRest_quotes] at hscan
  have hends := longEnds_behindLong? q hrest
  generalize behindLong? q.char rest = found at hscan hends
  cases found with
  | some tail =>
    obtain ⟨run, rfl, hnew, hrun⟩ := hends
    have hpart : '\n' ∉ q.char :: q.char :: q.char :: (run ++ [q.char, q.char, q.char]) := by
      simpa [hnew] using q.char_ne.2.1.symm
    have hmarks : MarkedWithin run := markedWithin_line (.inl ⟨hnew, rfl⟩)
    have htail := (h tail ⟨run ++ [q.char, q.char, q.char], by simp⟩).literal hopen hcontinued
      (by simpa using hline) hpart (by simpa using hended) hscan (.long hrun fun _ => hmarks) start
    simpa using htail
  | none =>
    obtain ⟨rfl, rfl⟩ := Prod.mk.inj hscan
    have hnew : '\n' ∈ rest := by
      exact (List.mem_append.mp (hended (by simp))).resolve_left hquotes
    refine hcontinues.inside n start s.needsMark (q.char :: q.char :: q.char :: rest) ?_
    exact .long rfl hcontinued rfl (by rw [(hrest.ends hnew).1]) (hrest.ends hnew).2
      (fun _ => markedWithin_line hrest) (hends.1 hnew)

theorem cutFrom_quote {q : Quote} (hcontinues : Continues (n + 1) s' more comments')
    (honce : ∀ inside, rest ≠ q.char :: q.char :: inside)
    (h : ∀ part, part <:+ rest → CutFrom n size s' more comments' fuel part) :
    CutFrom n size s' more comments' (fuel + 1) (q.char :: rest) := by
  intro start s comments hopen hcontinued hline hstart hended hscan
  have hrest : IsLine rest more := hline.tail q.char_ne.2.1
  have hnone : ¬ [q.char, q.char] <+: rest := fun ⟨inside, hinside⟩ => honce inside hinside.symm
  rw [scanRest_quote honce] at hscan
  have htells := tells_shortEnd q hrest
  generalize shortEnd q.char rest = found at hscan htells
  cases found with
  | closed tail =>
    obtain ⟨run, rfl, hnew, hrun⟩ := htells
    have hpart : '\n' ∉ q.char :: (run ++ [q.char]) := by simpa [hnew] using q.char_ne.2.1.symm
    have honce' : ¬ [q.char, q.char] <+: run ++ q.char :: (tail ++ more) := fun hquotes =>
      hnone (hrest.prefix_of_append (by simpa using q.char_ne.2.1.symm) (by simpa using hquotes))
    have htail := (h tail ⟨run ++ [q.char], by simp⟩).literal hopen hcontinued
      (by simpa using hline) hpart (by simpa using hended) hscan (.short honce' hrun) start
    simpa using htail
  | goesOn =>
    obtain ⟨rfl, rfl⟩ := Prod.mk.inj hscan
    obtain ⟨hlast, hrun⟩ := htells
    have hnew : '\n' ∈ rest := List.mem_of_getLast? hlast
    refine hcontinues.inside n start s.needsMark (q.char :: rest) ?_
    exact .short rfl hcontinued rfl (by rw [(hrest.ends hnew).1]) hlast hnone hrun
  | unclosed =>
    obtain ⟨run, tail, rfl, hrun, htail⟩ := htells
    refine (h _ List.suffix_rfl).behind [q.char] (p := .other [q.char]) hopen hcontinued hline
      (by simpa using q.char_ne.2.1.symm) hended hscan rfl (.stray ⟨fun hquotes => ?_, ?_⟩)
    · exact hnone (hrest.prefix_of_append (by simpa using q.char_ne.2.1.symm) hquotes)
    · have hmore : tail = [] ∨ tail = ['\\'] → more = [] := by
        intro hend
        have hnew : '\n' ∉ run ++ tail := by
          rcases hend with rfl | rfl <;> simpa using (hrun.first rfl).2
        exact hrest.more_eq_nil hnew
      refine ⟨run, tail ++ more, List.append_assoc _ _ _, ?_⟩
      rcases htail with rfl | rfl | hhead
      · rw [hmore (.inl rfl)]
        exact ⟨hrun, .inl rfl⟩
      · rw [hmore (.inr rfl)]
        exact ⟨hrun, .inr (.inl rfl)⟩
      · have hhead' : (tail ++ more).head? = tail.head? := by rw [List.head?_append, hhead]; rfl
        exact ⟨hhead' ▸ hrun, .inr (.inr (hhead'.trans hhead))⟩

theorem cutFrom_backslash (hcontinues : Continues (n + 1) s' more comments')
    (h : CutFrom n size s' more comments' fuel rest) :
    CutFrom n size s' more comments' (fuel + 1) ('\\' :: rest) := by
  intro start s comments hopen hcontinued hline hstart hended hscan
  have hrest : IsLine rest more := hline.tail (by decide)
  by_cases hjoined : ['\n'] <+: rest ∨ ['\r', '\n'] <+: rest
  · have hend : rest = ['\n'] ∨ rest = ['\r', '\n'] := by
      rcases hjoined with ⟨tail, rfl⟩ | ⟨tail, rfl⟩
      · exact .inl (congrArg _ (IsLine.of_newline hrest))
      · exact .inr (congrArg _ (IsLine.of_newline (hrest.tail (by decide))))
    rw [scanRest_joined (by rw [mem_lineEnds]; exact .inr hend) (by rintro rfl; simp at hend)] at hscan
    obtain ⟨rfl, rfl⟩ := Prod.mk.inj hscan
    have hcode := hcontinues.code hopen
    rw [lineSpot] at hcode
    exact .cons (.joined hend) (by simpa using hcode)
  · rw [scanRest_lone (not_or.mp hjoined)] at hscan
    refine h.behind ['\\'] (p := .other ['\\']) hopen hcontinued hline (by decide) hended
      hscan rfl ?_
    have hmore : ¬ ['\n'] <+: rest ++ more ∧ ¬ ['\r', '\n'] <+: rest ++ more :=
      not_or.mp fun hmore => hjoined (hmore.imp (hrest.prefix_of_append (by decide))
        (hrest.prefix_of_append (by decide)))
    have hstands := Stands.code (s := ⟨n, s.depth, start, s.needsMark⟩) (c := '\\')
      (by decide) (by decide) rfl (fun _ => by decide) fun _ => hmore
    rwa [show bracketChange '\\' = 0 by decide, Int.add_zero] at hstands

theorem cutFrom_char (hnew : c ≠ '\n') (hc : c ≠ '#') (hquote : quote? c = none) (hback : c ≠ '\\')
    (h : CutFrom n size s' more comments' fuel rest) :
    CutFrom n size s' more comments' (fuel + 1) (c :: rest) := by
  intro start s comments hopen hcontinued hline hstart hended hscan
  rw [scanRest_char hnew hc hquote hback] at hscan
  refine h.behind (s := { s with depth := s.depth + bracketChange c }) [c] (p := .other [c])
    hopen hcontinued hline (by simpa using hnew.symm) hended hscan rfl
    (.code hnew hc hquote (fun htrue hmem => ?_) fun heq => absurd heq hback)
  exact hstart htrue c rfl (by simp only [List.mem_cons] at hmem ⊢; tauto)

/-- What is left of a line is cut into pieces. -/
theorem cutFrom_of_length (hcontinues : Continues (n + 1) s' more comments')
    (hfuel : line.length < fuel) : CutFrom n size s' more comments' fuel line := by
  induction fuel generalizing line with
  | zero => cases hfuel
  | succ fuel ih =>
    cases line with
    | nil => exact cutFrom_nil hcontinues
    | cons c rest =>
      rw [List.length_cons, Nat.add_lt_add_iff_right] at hfuel
      have hrest (part : List Char) (hpart : part <:+ rest) :
          CutFrom n size s' more comments' fuel part := ih (hpart.length_le.trans_lt hfuel)
      by_cases hnew : c = '\n'
      · subst hnew
        exact cutFrom_newline hcontinues
      by_cases hhash : c = '#'
      · subst hhash
        exact cutFrom_hash hrest
      cases hquote : quote? c with
      | some q =>
        obtain rfl := quote?_eq_some hquote
        by_cases hthrice : ∃ inside, rest = q.char :: q.char :: inside
        · obtain ⟨inside, rfl⟩ := hthrice
          refine cutFrom_quotes hcontinues fun part hpart => hrest part ?_
          exact hpart.trans (List.suffix_append [q.char, q.char] inside)
        · exact cutFrom_quote hcontinues (fun inside heq => hthrice ⟨inside, heq⟩) hrest
      | none =>
        by_cases hback : c = '\\'
        · subst hback
          exact cutFrom_backslash hcontinues (hrest rest List.suffix_rfl)
        · exact cutFrom_char hnew hhash hquote hback (hrest rest List.suffix_rfl)

/-! ### Lines at which statements start -/

theorem Cuts.blanks {t : Spot} {blanks : List Char} (hstart : t.start = true)
    (hblanks : ∀ d ∈ blanks, d ∈ [' ', '\t', '\x0c']) (h : Cuts t rest comments) :
    Cuts t (blanks ++ rest) comments := by
  induction blanks with
  | nil => exact h
  | cons c blanks ih =>
    obtain ⟨hc, hblanks⟩ := List.forall_mem_cons.mp hblanks
    exact .cons (.blank hstart hc) (ih hblanks)

/-- An indentation is all of the blanks in front of a line. -/
theorem measure_blanks (column : Nat) (line : List Char) :
    ∃ blanks, line = blanks ++ (measure column line).2 ∧ (∀ d ∈ blanks, d ∈ [' ', '\t', '\x0c']) ∧
      ∀ d ∈ (measure column line).2.head?, d ∉ [' ', '\t', '\x0c'] := by
  have hcons {c : Char} {line rest : List Char} (hc : c ∈ [' ', '\t', '\x0c']) :
      (∃ blanks, line = blanks ++ rest ∧ (∀ d ∈ blanks, d ∈ [' ', '\t', '\x0c']) ∧
        ∀ d ∈ rest.head?, d ∉ [' ', '\t', '\x0c']) →
      ∃ blanks, c :: line = blanks ++ rest ∧ (∀ d ∈ blanks, d ∈ [' ', '\t', '\x0c']) ∧
        ∀ d ∈ rest.head?, d ∉ [' ', '\t', '\x0c'] :=
    fun ⟨blanks, heq, hblanks, hhead⟩ =>
      ⟨c :: blanks, congrArg _ heq, List.forall_mem_cons.mpr ⟨hc, hblanks⟩, hhead⟩
  fun_induction measure column line with
  | case1 column rest ih => exact hcons (by decide) ih
  | case2 column rest ih => exact hcons (by decide) ih
  | case3 column rest ih => exact hcons (by decide) ih
  | case4 column line hspace htab hfeed =>
    refine ⟨[], rfl, fun d hd => absurd hd List.not_mem_nil, fun d hd hmem => ?_⟩
    obtain ⟨rest, rfl⟩ := List.head?_eq_some_iff.mp hd
    simp only [List.mem_cons, List.not_mem_nil, or_false] at hmem
    rcases hmem with rfl | rfl | rfl
    · exact hspace rest rfl
    · exact htab rest rfl
    · exact hfeed rest rfl

/-- The end of a line in which no statement has started. -/
theorem cuts_lineEnd (hcontinues : Continues (n + 1) s more comments) (hopen : s.openText = none)
    (hcontinued : s.continued = false) (hline : IsLine line more)
    (hhead : ∀ d ∈ line.head?, d = '\n' ∨ d = '\r') :
    Cuts ⟨n, s.depth, true, s.needsMark⟩ (line ++ more) comments := by
  have hend (e : List Char) (hline : IsLine e more) (he : ∀ d ∈ e.head?, d = '\n') :
      Cuts ⟨n, s.depth, true, s.needsMark⟩ (e ++ more) comments := by
    cases e with
    | nil =>
      have hcut : CutFrom n 0 s more comments 1 [] := cutFrom_nil hcontinues
      exact hcut true s [] hopen hcontinued hline (by simp) (absurd hopen) rfl
    | cons d rest =>
      obtain rfl := he d rfl
      have hcut : CutFrom n 0 s more comments 1 ('\n' :: rest) := cutFrom_newline hcontinues
      exact hcut true s [] hopen hcontinued hline (by simp) (absurd hopen) rfl
  cases line with
  | nil => exact hend [] hline (by simp)
  | cons c rest =>
    rcases hhead c rfl with rfl | rfl
    · exact hend _ hline (by simp)
    · have hskipped : '\n' ∉ rest.takeWhile (· != '\n') := fun hmem => by
        simpa using List.mem_takeWhile_imp hmem
      have htail : ∀ d ∈ (rest.dropWhile (· != '\n')).head?, d = '\n' := by
        intro d hd
        have hnot := List.head?_dropWhile_not (· != '\n') rest
        rw [Option.mem_def.mp hd] at hnot
        simpa using hnot
      have hsplit := List.takeWhile_append_dropWhile (p := (· != '\n')) (l := rest)
      generalize rest.takeWhile (· != '\n') = skipped at *
      generalize rest.dropWhile (· != '\n') = tail at *
      subst hsplit
      have hrest : IsLine tail more := hline.of_append ('\r' :: skipped) (by simpa using hskipped)
      rw [List.cons_append, List.append_assoc, ← List.cons_append]
      refine .cons (p := .other ('\r' :: skipped)) (.emptyLine rfl hskipped fun d hd => ?_)
        (hend tail hrest htail)
      cases tail with
      | nil =>
        rw [hrest.nil_of_nil] at hd
        cases hd
      | cons e tail => exact htail d hd

/-- Behind the returns at the end of a line there is nothing but the line end. -/
theorem IsLine.behind_returns (h : IsLine line more) (hends : ∀ d ∈ line, d = '\n' ∨ d = '\r') :
    ∀ d ∈ ((line ++ more).dropWhile (· == '\r')).head?, d = '\n' := by
  induction line with
  | nil =>
    obtain rfl := h.nil_of_nil
    simp
  | cons c rest ih =>
    obtain ⟨rfl | rfl, hrest⟩ := List.forall_mem_cons.mp hends
    · simp
    · simpa using ih (h.tail (by decide)) hrest

/-- The comment of a line of its own, with what is left of the line. -/
theorem cuts_lone (hcontinues : Continues (n + 1) s more comments) (hopen : s.openText = none)
    (hcontinued : s.continued = false) (hline : IsLine ('#' :: rest) more) :
    Cuts ⟨n, s.depth, true, s.needsMark⟩ ('#' :: rest ++ more)
      (⟨n, (('#' :: rest).reverse.dropWhile fun d => d == '\n' || d == '\r').reverse⟩ :: comments) := by
  have hsplit := congrArg List.reverse (List.takeWhile_append_dropWhile
    (p := fun d => d == '\n' || d == '\r') (l := ('#' :: rest).reverse))
  rw [List.reverse_append, List.reverse_reverse] at hsplit
  have hends : ∀ d ∈ (('#' :: rest).reverse.takeWhile fun d => d == '\n' || d == '\r').reverse,
      d = '\n' ∨ d = '\r' := fun d hd => by simpa using List.mem_takeWhile_imp (List.mem_reverse.mp hd)
  have hlast : ∀ d ∈ (('#' :: rest).reverse.dropWhile fun d => d == '\n' || d == '\r').reverse.getLast?,
      d ≠ '\n' ∧ d ≠ '\r' := by
    intro d hd
    have hnot := List.head?_dropWhile_not (fun d => d == '\n' || d == '\r') ('#' :: rest).reverse
    rw [← List.getLast?_reverse, Option.mem_def.mp hd] at hnot
    simpa using hnot
  generalize (('#' :: rest).reverse.dropWhile fun d => d == '\n' || d == '\r').reverse = kept at *
  generalize (('#' :: rest).reverse.takeWhile fun d => d == '\n' || d == '\r').reverse = ends at *
  cases kept with
  | nil =>
    rw [List.nil_append] at hsplit
    exact absurd (hends '#' (by simp [hsplit])) (by decide)
  | cons c body =>
    obtain ⟨rfl, rfl⟩ := List.cons.inj hsplit
    have hbody : '\n' ∉ body := by
      intro hmem
      obtain ⟨front, back, rfl⟩ := List.append_of_mem hmem
      have hsplit' : '#' :: (front ++ '\n' :: back ++ ends) =
          ('#' :: front) ++ '\n' :: (back ++ ends) := by simp
      have hback := (hline.eq_append hsplit').2
      obtain ⟨rfl, rfl⟩ := List.append_eq_nil_iff.mp hback
      exact (hlast '\n' (by simp [List.getLast?_cons])).1 rfl
    have htail : IsLine ends more := hline.of_append ('#' :: body) (by simpa using hbody)
    change Cuts _ ('#' :: body ++ ends ++ more) _
    rw [List.append_assoc]
    refine .cons (p := .comment ⟨n, '#' :: body⟩) (.lone rfl hbody (fun hreturn => ?_)
      (htail.behind_returns hends)) (cuts_lineEnd hcontinues hopen hcontinued htail ?_)
    · exact (hlast '\r' (by simp [List.getLast?_cons, hreturn])).2 rfl
    · exact fun d hd => hends d (List.mem_of_head? hd)

theorem cuts_scanStatement (hline : IsLine line more) (hopen : s.openText = none)
    (hcontinued : s.continued = false) (hscan : scanStatement n s line = .ok (s', comments))
    (hended : s'.openText ≠ none → '\n' ∈ line) (hcontinues : Continues (n + 1) s' more comments') :
    Cuts ⟨n, s.depth, true, s.needsMark⟩ (line ++ more) (comments ++ comments') := by
  obtain ⟨blanks, hblanks, hall, hhead⟩ := measure_blanks 0 line
  obtain ⟨size, hsize⟩ : ∃ size, line.length = size := ⟨_, rfl⟩
  unfold scanStatement at hscan
  rw [hsize] at hscan
  generalize measure 0 line = measured at hblanks hhead hscan
  obtain ⟨column, rest⟩ := measured
  dsimp only at hblanks hhead hscan
  subst hblanks
  have hnew : '\n' ∉ blanks := fun hmem => absurd (hall _ hmem) (by decide)
  have hrest := hline.of_append blanks hnew
  rw [List.append_assoc]
  refine .blanks rfl hall ?_
  split at hscan
  next =>
    obtain ⟨rfl, rfl⟩ := Prod.mk.inj (Except.ok.inj hscan)
    exact cuts_lineEnd hcontinues hopen hcontinued hrest (by simp)
  next c rest =>
    split at hscan
    next hend =>
      obtain ⟨rfl, rfl⟩ := Prod.mk.inj (Except.ok.inj hscan)
      exact cuts_lineEnd hcontinues hopen hcontinued hrest (by simpa using hend)
    next hend =>
      split at hscan
      next hhash =>
        subst hhash
        obtain ⟨rfl, rfl⟩ := Prod.mk.inj (Except.ok.inj hscan)
        exact cuts_lone hcontinues hopen hcontinued hrest
      next hhash =>
        split at hscan
        next => cases hscan
        next =>
          have hfuel : (c :: rest).length < size + 1 := by
            rw [List.length_append] at hsize
            omega
          generalize ite (s.indents.headD 0 < column) _ _ = indents at hscan
          refine cutFrom_of_length hcontinues hfuel true { s with indents } comments hopen
            hcontinued hrest (fun _ d hd hmem => ?_) (fun hs' => ?_) (Except.ok.inj hscan)
          · obtain rfl := Option.some.inj (Option.mem_def.mp hd)
            have hblank := hhead c rfl
            simp only [List.mem_cons, List.not_mem_nil, or_false] at hblank hmem
            tauto
          · exact (List.mem_append.mp (hended hs')).resolve_left hnew

/-! ### Texts that go over line ends -/

section Texts

variable {text tail : List Char} {startLine : Nat} {armed : Bool} (start : Bool)

/-- A text that is closed in a later line, with what is left of this line. -/
theorem cuts_closed {part : List Char} (hcontinues : Continues (n + 1) s' more comments')
    (hcontinued : s.continued = false) (hnew : '\n' ∈ text) (hnumber : startLine + text.count '\n' = n)
    (hpart : '\n' ∉ part) (hline : IsLine (part ++ tail) more)
    (hended : s'.openText ≠ none → '\n' ∈ part ++ tail)
    (hliteral : IsLiteral armed (text ++ part) (tail ++ more)) (hfuel : tail.length < fuel)
    (hscan : scanRest n size fuel { s with openText := none, needsMark := false } tail =
      (s', comments)) :
    Cuts ⟨startLine, s.depth, start, armed⟩ (text ++ part ++ (tail ++ more))
      (comments ++ comments') := by
  have hstands := Stands.literal (s := ⟨startLine, s.depth, start, armed⟩) hliteral
  have hmem : '\n' ∈ text ++ part := List.mem_append_left part hnew
  rw [List.count_append, List.count_eq_zero_of_not_mem hpart, Nat.add_zero, hnumber,
    decide_eq_false (not_not_intro hmem), Bool.and_false] at hstands
  exact .cons hstands (cutFrom_of_length hcontinues hfuel false
    { s with openText := none, needsMark := false } comments rfl hcontinued (hline.of_append part hpart)
    (fun h => Bool.noConfusion h) (fun hs' => (List.mem_append.mp (hended hs')).resolve_left hpart)
    hscan)

/-- A text that is broken off at a line. -/
theorem cuts_broken (hcontinues : Continues (n + 1) { s with openText := none } more comments)
    (hcontinued : s.continued = false) (hmarks : s.needsMark = true)
    (hnumber : startLine + text.count '\n' = n) (hline : IsLine line more)
    (hbroken : IsBroken armed (text ++ line) more) :
    Cuts ⟨startLine, s.depth, start, armed⟩ (text ++ line ++ more) comments := by
  have hcode := hcontinues.code rfl
  refine .cons (.broken hbroken) ?_
  by_cases hnew : '\n' ∈ line
  · rw [List.count_append, (hline.ends hnew).1, ← Nat.add_assoc, hnumber]
    simpa [lineSpot, hcontinued, hmarks] using hcode
  · obtain rfl := hline.more_eq_nil hnew
    rw [hcode.eq_nil]
    exact ⟨[], .nil _, rfl⟩

/-- Behind a line that ends, a text that goes on ends in a line end. -/
theorem IsLine.goesOn (hline : IsLine line more) (hnew : '\n' ∈ line)
    (hnumber : startLine + run.count '\n' = n) :
    startLine + (run ++ line).count '\n' = n + 1 ∧ (run ++ line).getLast? = some '\n' := by
  obtain ⟨hcount, hlast⟩ := hline.ends hnew
  constructor
  · rw [List.count_append, hcount, ← Nat.add_assoc, hnumber]
  · rw [List.getLast?_append, hlast]
    rfl

theorem scanLine_inShort {quote : Char} {column : Nat}
    (hopen : s.openText = some ⟨quote, false, startLine, column⟩) :
    scanLine n s line = match behindShort? quote line with
      | some rest => .ok (scanRest n line.length (line.length + 1)
        { s with openText := none, needsMark := false } rest)
      | none => if s.needsMark && !isMarked line then .ok ({ s with openText := none }, [])
        else .ok (s, []) := by
  rw [scanLine, hopen]
  rfl

theorem scanLine_inLong {quote : Char} {column : Nat}
    (hopen : s.openText = some ⟨quote, true, startLine, column⟩) :
    scanLine n s line = match behindLong? quote line with
      | some rest => .ok (scanRest n line.length (line.length + 1)
        { s with openText := none, needsMark := false } rest)
      | none => if s.needsMark && !isMarked line then .ok ({ s with openText := none }, [])
        else .ok (s, []) := by
  rw [scanLine, hopen]
  rfl

theorem cuts_short {q : Quote} {opened column : Nat} (hline : IsLine line more)
    (hopen : s.openText = some ⟨q.char, false, opened, column⟩) (hcontinued : s.continued = false)
    (hmarks : s.needsMark = true) (hnumber : startLine + run.count '\n' = n)
    (hlast : run.getLast? = some '\n') (honce : ¬ [q.char, q.char] <+: run)
    (hrun : ∀ next, ShortRun q next false run true)
    (hscan : scanLine n s line = .ok (s', comments)) (hended : s'.openText ≠ none → '\n' ∈ line)
    (hcontinues : Continues (n + 1) s' more comments') :
    Cuts ⟨startLine, s.depth, start, armed⟩ (q.char :: run ++ (line ++ more))
      (comments ++ comments') := by
  have hnew : '\n' ∈ run := List.mem_of_getLast? hlast
  have hcount : startLine + (q.char :: run).count '\n' = n := by
    rwa [List.count_cons_of_ne q.char_ne.2.1]
  have hend := laterEnd_behindShort? q hline
  rw [scanLine_inShort hopen] at hscan
  generalize behindShort? q.char line = found at hend hscan
  cases found with
  | some tail =>
    obtain ⟨part, rfl, hpart, hmore⟩ := hend
    have honce' : ¬ [q.char, q.char] <+: run ++ part ++ q.char :: (tail ++ more) := fun hquotes =>
      honce (quotes_of_append hnew (by simpa using hquotes))
    have hliteral : IsLiteral armed (q.char :: run ++ (part ++ [q.char])) (tail ++ more) := by
      rw [List.cons_append, ← List.append_assoc]
      exact .short honce' ((hrun _).append hmore)
    have hcut := cuts_closed start hcontinues hcontinued (List.mem_cons_of_mem _ hnew) hcount
      (by simpa [hpart] using q.char_ne.2.1.symm) (by simpa using hline)
      (by simpa using hended) hliteral (by simp; omega) (Except.ok.inj hscan)
    simpa using hcut
  | none =>
    rcases hend with ⟨hmarked, hmore⟩ | ⟨hmarked, part, e, hsplit, hpart, he⟩
    · rw [if_neg (by simp [hmarked])] at hscan
      obtain ⟨rfl, rfl⟩ := Prod.mk.inj (Except.ok.inj hscan)
      obtain ⟨hnumber', hlast'⟩ := hline.goesOn (hended (by simp [hopen])) hnumber
      have hpending : Pending (n + 1) s startLine armed (q.char :: (run ++ line)) :=
        .short hopen hcontinued hmarks hnumber' hlast'
          (fun hquotes => honce (quotes_of_append hnew hquotes)) fun next => (hrun _).append (hmore next)
      rw [← List.append_assoc]
      exact hcontinues.inside startLine start armed _ hpending
    · rw [if_pos (by rw [hmarks, hmarked]; rfl)] at hscan
      obtain ⟨rfl, rfl⟩ := Prod.mk.inj (Except.ok.inj hscan)
      rw [← List.append_assoc]
      exact cuts_broken start hcontinues hcontinued hmarks hcount hline
        (.short honce hlast hrun hline hmarked hsplit hpart he)

theorem cuts_long {q : Quote} {opened column : Nat} (hline : IsLine line more)
    (hopen : s.openText = some ⟨q.char, true, opened, column⟩) (hcontinued : s.continued = false)
    (hmarks : s.needsMark = armed) (hnumber : startLine + run.count '\n' = n)
    (hlast : run.getLast? = some '\n') (hwithin : armed = true → MarkedWithin run)
    (hrun : ∀ after, LongRun q after run)
    (hscan : scanLine n s line = .ok (s', comments)) (hended : s'.openText ≠ none → '\n' ∈ line)
    (hcontinues : Continues (n + 1) s' more comments') :
    Cuts ⟨startLine, s.depth, start, armed⟩ (q.char :: q.char :: q.char :: run ++ (line ++ more))
      (comments ++ comments') := by
  have hnew : '\n' ∈ run := List.mem_of_getLast? hlast
  have hcount : startLine + (q.char :: q.char :: q.char :: run).count '\n' = n := by
    simpa [List.count_cons_of_ne q.char_ne.2.1] using hnumber
  have hends := longEnds_behindLong? q hline
  rw [scanLine_inLong hopen] at hscan
  generalize behindLong? q.char line = found at hends hscan
  cases found with
  | some tail =>
    obtain ⟨part, rfl, hpart, hmore⟩ := hends
    have hliteral : IsLiteral armed (q.char :: q.char :: q.char :: run ++
        (part ++ [q.char, q.char, q.char])) (tail ++ more) := by
      rw [List.cons_append, List.cons_append, List.cons_append, ← List.append_assoc]
      exact .long ((hrun _).append hmore) fun harmed =>
        (hwithin harmed).append (hasMark_of_notMem hpart)
    have hcut := cuts_closed start hcontinues hcontinued (by simp [hnew]) hcount
      (by simpa [hpart] using q.char_ne.2.1.symm)
      (by simpa using hline) (by simpa using hended) hliteral (by simp; omega) (Except.ok.inj hscan)
    simpa using hcut
  | none =>
    obtain ⟨hafter, part, e, hsplit, hpart, he⟩ := hends
    by_cases hbroken : (s.needsMark && !isMarked line) = true
    · rw [if_pos hbroken] at hscan
      obtain ⟨rfl, rfl⟩ := Prod.mk.inj (Except.ok.inj hscan)
      obtain ⟨hneeds, hmarked⟩ := Bool.and_eq_true_iff.mp hbroken
      have harmed : armed = true := hmarks ▸ hneeds
      rw [← List.append_assoc]
      exact cuts_broken start hcontinues hcontinued hneeds hcount hline
        (.long harmed hlast hrun (hwithin harmed) hline (by simpa using hmarked) hsplit hpart he)
    · rw [if_neg hbroken] at hscan
      obtain ⟨rfl, rfl⟩ := Prod.mk.inj (Except.ok.inj hscan)
      have hline' : '\n' ∈ line := hended (by simp [hopen])
      obtain ⟨hnumber', hlast'⟩ := hline.goesOn hline' hnumber
      have hwithin' : armed = true → MarkedWithin (run ++ line) := fun harmed =>
        (hwithin harmed).append (hasMark_of_isMarked hline (by simpa [hmarks, harmed] using hbroken))
      have hpending : Pending (n + 1) s startLine armed (q.char :: q.char :: q.char :: (run ++ line)) :=
        .long hopen hcontinued hmarks hnumber' hlast' hwithin'
          fun after => (hrun _).append (hafter hline' after)
      rw [← List.append_assoc]
      exact hcontinues.inside startLine start armed _ hpending

end Texts

/-! ### Texts line by line -/

/-- What is found in a line are the comments among the pieces from it on. -/
theorem continues_scanLine (hline : IsLine line more) (hscan : scanLine n s line = .ok (s', comments))
    (hended : s'.openText ≠ none → '\n' ∈ line) (hcontinues : Continues (n + 1) s' more comments') :
    Continues n s (line ++ more) (comments ++ comments') where
  code hopen := by
    simp only [scanLine, hopen, Bool.not_eq_true'] at hscan
    by_cases hstart : s.depth = 0 ∧ s.continued = false
    · rw [if_pos hstart] at hscan
      rw [lineSpot, decide_eq_true hstart]
      exact cuts_scanStatement hline hopen hstart.2 hscan hended hcontinues
    · rw [if_neg hstart] at hscan
      rw [lineSpot, decide_eq_false hstart]
      exact cutFrom_of_length hcontinues (Nat.lt_succ_self _) false
        { s with continued := false, openText := none } comments rfl rfl hline (fun h => Bool.noConfusion h) hended (Except.ok.inj hscan)
  inside startLine start armed text hpending := by
    cases hpending with
    | short hopen hcontinued hmarks hnumber hlast honce hrun =>
      exact cuts_short start hline hopen hcontinued hmarks hnumber hlast honce hrun hscan hended
        hcontinues
    | long hopen hcontinued hmarks hnumber hlast hwithin hrun =>
      exact cuts_long start hline hopen hcontinued hmarks hnumber hlast hwithin hrun hscan hended
        hcontinues

theorem Pending.openText_ne {startLine : Nat} {armed : Bool} {text : List Char}
    (h : Pending n s startLine armed text) : s.openText ≠ none := by
  cases h with
  | short hopen | long hopen => exact hopen ▸ Option.some_ne_none _

/-- Behind a text whose comments can be told, another statement may start. -/
theorem ready_of_scanLines (h : scanLines s n [] = .ok comments) :
    s.openText = none ∧ (s.depth = 0 ∧ s.continued = false) ∧ comments = [] := by
  unfold scanLines at h
  split at h
  next => cases h
  next hopen =>
    split at h
    next hready => exact ⟨hopen, by simpa using hready, (Except.ok.inj h).symm⟩
    next => cases h

theorem continues_nil (h : scanLines s n [] = .ok comments) : Continues n s [] comments := by
  obtain ⟨hopen, -, rfl⟩ := ready_of_scanLines h
  exact ⟨fun _ => ⟨[], .nil _, rfl⟩, fun _ _ _ _ hpending => absurd hopen hpending.openText_ne⟩

theorem exists_of_scanLines {lines : List (List Char)} (h : scanLines s n (line :: lines) = .ok comments) :
    ∃ s' found comments', scanLine n s line = .ok (s', found) ∧
      scanLines s' (n + 1) lines = .ok comments' ∧ comments = found ++ comments' := by
  rw [scanLines] at h
  cases hscan : scanLine n s line with
  | error fault =>
    rw [hscan] at h
    cases h
  | ok found =>
    cases hmore : scanLines found.1 (n + 1) lines with
    | error fault =>
      rw [hscan] at h
      dsimp [bind, Except.bind] at h
      rw [hmore] at h
      cases h
    | ok comments' =>
      rw [hscan] at h
      dsimp [bind, Except.bind] at h
      rw [hmore] at h
      exact ⟨found.1, found.2, comments', rfl, hmore, (Except.ok.inj h).symm⟩

theorem continues_endedLines {taken text : List Char} (htaken : '\n' ∉ taken)
    (h : scanLines s n (endedLines taken text) = .ok comments) :
    Continues n s (taken.reverse ++ text) comments := by
  induction text generalizing n s taken comments with
  | nil =>
    rw [endedLines] at h
    split at h
    next hempty =>
      rw [List.isEmpty_iff.mp hempty]
      exact continues_nil h
    next hempty =>
      obtain ⟨s', found, comments', hscan, hmore, rfl⟩ := exists_of_scanLines h
      exact continues_scanLine (.inl ⟨by simpa using htaken, rfl⟩) hscan
        (absurd (ready_of_scanLines hmore).1) (continues_nil hmore)
  | cons c rest ih =>
    rw [endedLines] at h
    split at h
    next hnew =>
      subst hnew
      obtain ⟨s', found, comments', hscan, hmore, rfl⟩ := exists_of_scanLines h
      rw [List.reverse_cons] at hscan
      rw [List.append_cons]
      exact continues_scanLine (.inr ⟨_, by simpa using htaken, rfl⟩) hscan (fun _ => by simp)
        (ih List.not_mem_nil hmore)
    next hnew =>
      have htaken' : '\n' ∉ c :: taken := by simpa [htaken] using Ne.symm hnew
      have hrest := ih htaken' h
      rwa [List.reverse_cons, ← List.append_cons] at hrest

/-- The comments that are found in a text are those among its pieces. -/
theorem cuts_ofText {text : String} (h : ofText text = .ok comments) :
    Cuts ⟨1, 0, true, false⟩ text.toList comments :=
  (continues_endedLines List.not_mem_nil h).code rfl

/-! ### A comment behind a text -/

variable {body : List Char}

theorem scanLine_lone (hopen : s.openText = none) (hready : s.depth = 0 ∧ s.continued = false)
    (hbody : OneLine body) : scanLine n s ('#' :: body) = .ok (s, [⟨n, '#' :: body⟩]) := by
  have hkept : (('#' :: body).reverse.dropWhile fun d => d == '\n' || d == '\r').reverse =
      '#' :: body := by
    have hline : OneLine ('#' :: body) := ⟨by simpa using hbody.1, by simpa using hbody.2⟩
    simpa only [List.append_nil] using reverse_dropWhile_append (e := []) (mem_lineEnds.mpr (.inl rfl)) hline
  have hmeasure : measure 0 ('#' :: body) = (0, '#' :: body) := rfl
  have hstart : s.depth = 0 ∧ (!s.continued) = true := ⟨hready.1, by rw [hready.2]; rfl⟩
  rw [scanLine, hopen]
  dsimp only
  rw [if_pos hstart, scanStatement, hmeasure]
  dsimp only
  rw [if_neg (by decide), if_pos rfl, hkept]

theorem scanLines_append_comment {lines : List (List Char)} (hbody : OneLine body)
    (h : scanLines s n lines = .ok comments) :
    scanLines s n (lines ++ ['#' :: body]) = .ok (comments ++ [⟨n + lines.length, '#' :: body⟩]) := by
  induction lines generalizing s n comments with
  | nil =>
    obtain ⟨hopen, hready, rfl⟩ := ready_of_scanLines h
    have hnil : scanLines s (n + 1) [] = .ok [] := by
      rw [scanLines, hopen]
      exact if_pos ⟨hready.1, by rw [hready.2]; rfl⟩
    rw [List.nil_append, scanLines, scanLine_lone hopen hready hbody]
    dsimp [bind, Except.bind]
    rw [hnil]
    rfl
  | cons line lines ih =>
    obtain ⟨s', found, comments', hscan, hmore, rfl⟩ := exists_of_scanLines h
    rw [List.cons_append, scanLines, hscan]
    dsimp [bind, Except.bind]
    rw [ih hmore, List.append_assoc, Nat.add_right_comm]
    rfl

/-- The lines behind a line end are those of what follows it. -/
theorem endedLines_append (taken front rest : List Char) :
    endedLines taken (front ++ '\n' :: rest) =
      endedLines taken (front ++ ['\n']) ++ endedLines [] rest := by
  induction front generalizing taken with
  | nil => rfl
  | cons c front ih =>
    rw [List.cons_append, List.cons_append, endedLines, endedLines]
    split
    · rw [ih, List.cons_append]
    · rw [ih]

theorem length_endedLines (taken front : List Char) :
    (endedLines taken (front ++ ['\n'])).length = (front ++ ['\n']).count '\n' := by
  induction front generalizing taken with
  | nil => rfl
  | cons c front ih =>
    rw [List.cons_append, endedLines]
    split
    next hc => rw [hc, List.length_cons, ih, List.count_cons_self]
    next hc => rw [ih, List.count_cons_of_ne hc]

theorem endedLines_of_notMem {taken text : List Char} (hnew : '\n' ∉ text)
    (hne : taken.reverse ++ text ≠ []) : endedLines taken text = [taken.reverse ++ text] := by
  induction text generalizing taken with
  | nil => rw [endedLines, if_neg (by simpa using hne), List.append_nil]
  | cons c text ih =>
    obtain ⟨hc, htext⟩ := List.ne_and_not_mem_of_not_mem_cons hnew
    rw [endedLines, if_neg hc.symm, ih htext (by simp), List.reverse_cons, ← List.append_cons]

/-- A comment on a line of its own is found behind a text whose last line ends. -/
theorem ofText_append_comment {text : String} (hbody : OneLine body)
    (htext : text.toList = [] ∨ text.toList.getLast? = some '\n') (h : ofText text = .ok comments) :
    ofText (text ++ String.ofList ('#' :: body)) =
      .ok (comments ++ [⟨1 + text.toList.count '\n', '#' :: body⟩]) := by
  have hlast : endedLines [] ('#' :: body) = ['#' :: body] :=
    endedLines_of_notMem (by simpa using hbody.1) (List.cons_ne_nil _ _)
  rw [ofText, String.toList_append, String.toList_ofList]
  rw [ofText] at h
  rcases htext with htext | htext
  · rw [htext] at h ⊢
    rw [List.nil_append, hlast]
    exact scanLines_append_comment hbody h
  · obtain ⟨front, hfront⟩ := List.getLast?_eq_some_iff.mp htext
    rw [hfront] at h ⊢
    rw [List.append_assoc, List.singleton_append, endedLines_append, hlast, ← length_endedLines []]
    exact scanLines_append_comment hbody h

end SourceConventions.Syntax.Comment
