import SourceConventions.Proofs.Comments.Scanned

/-!
# The pieces of a text

A text is cut into pieces from its start on: comments, texts in quotes that are closed, and what is
neither. A quote that closes nothing is a piece of its own, unless a text goes on behind it over a
line end and is broken off at a later one. There is one way at most to cut a text.
-/

namespace SourceConventions.Syntax.Comment

variable {q : Quote} {c : Char} {run run' rest line more after : List Char} {later later' : Bool}
  {next : Option Char}

/-- That a line, with the line end that it has unless it is the last one, stands before a text. -/
def IsLine (line more : List Char) : Prop :=
  '\n' ∉ line ∧ more = [] ∨ ∃ body, '\n' ∉ body ∧ line = body ++ ['\n']

namespace IsLine

theorem of_newline (h : IsLine ('\n' :: line) more) : line = [] := by
  rcases h with ⟨hnew, -⟩ | ⟨body, hbody, heq⟩
  · exact absurd List.mem_cons_self hnew
  · cases body with
    | nil => exact (List.cons.inj heq).2
    | cons d body => exact absurd ((List.cons.inj heq).1 ▸ List.mem_cons_self) hbody

theorem more_eq_nil (h : IsLine line more) (hnew : '\n' ∉ line) : more = [] :=
  (h.resolve_right fun ⟨_, _, heq⟩ => hnew (heq ▸ by simp)).2

theorem of_append (part : List Char) (h : IsLine (part ++ line) more) (hpart : '\n' ∉ part) :
    IsLine line more := by
  rcases h with ⟨hnew, hmore⟩ | ⟨body, hbody, heq⟩
  · exact .inl ⟨fun hline => hnew (List.mem_append_right part hline), hmore⟩
  · rcases List.append_eq_append_iff.mp heq with ⟨front, rfl, rfl⟩ | ⟨back, rfl, hback⟩
    · exact .inr ⟨front, fun hfront => hbody (List.mem_append_right part hfront), rfl⟩
    · cases back with
      | nil => exact .inr ⟨[], List.not_mem_nil, hback.symm⟩
      | cons d back =>
        obtain ⟨rfl, -⟩ := List.cons.inj hback
        exact absurd (by simp) hpart

theorem tail (h : IsLine (c :: line) more) (hc : c ≠ '\n') : IsLine line more :=
  of_append [c] h (by simpa using hc.symm)

theorem nil_of_nil (h : IsLine [] more) : more = [] := by
  rcases h with ⟨-, hmore⟩ | ⟨body, -, heq⟩
  · exact hmore
  · cases body <;> cases heq

end IsLine

/-! ### Texts in quotes -/

/-- Characters of a short text, none of which closes it, up to the one that comes next. Behind a
backslash at the end of its line a text goes on; in a later line nothing else than this backslash
counts, though another one may stand before it. -/
inductive ShortRun (q : Quote) (next : Option Char) : Bool → List Char → Bool → Prop
  | nil (later : Bool) : ShortRun q next later [] later
  | plain {later later' : Bool} {c : Char} {run : List Char} (hquote : c ≠ q.char) (hback : c ≠ '\\')
    (hnew : c ≠ '\n') (h : ShortRun q next later run later') : ShortRun q next later (c :: run) later'
  | escape {later later' : Bool} {c : Char} {run : List Char} (hnew : c ≠ '\n')
    (hreturn : c = '\r' → (run.head?.or next) ≠ some '\n') (h : ShortRun q next later run later') :
    ShortRun q next later ('\\' :: c :: run) later'
  | joined {later later' : Bool} {e run : List Char} (he : e = ['\n'] ∨ e = ['\r', '\n'])
    (h : ShortRun q next true run later') : ShortRun q next later ('\\' :: (e ++ run)) later'
  | marked {later' : Bool} {e run : List Char} (he : e = ['\n'] ∨ e = ['\r', '\n'])
    (h : ShortRun q next true run later') : ShortRun q next true ('\\' :: '\\' :: (e ++ run)) later'

/-- Characters of a long text, none of which closes it, up to those that come next. -/
inductive LongRun (q : Quote) (after : List Char) : List Char → Prop
  | nil : LongRun q after []
  | plain {c : Char} {run : List Char} (hback : c ≠ '\\')
    (hquotes : c = q.char → ¬ [q.char, q.char] <+: run ++ after) (h : LongRun q after run) :
    LongRun q after (c :: run)
  | escape {c : Char} {run : List Char} (h : LongRun q after run) : LongRun q after ('\\' :: c :: run)

theorem ShortRun.append {later'' : Bool} (h : ShortRun q (run'.head?.or next) later run later')
    (h' : ShortRun q next later' run' later'') : ShortRun q next later (run ++ run') later'' := by
  induction h with
  | nil => exact h'
  | plain hquote hback hnew _ ih => exact .plain hquote hback hnew (ih h')
  | @escape _ _ _ run hnew hreturn _ ih =>
    refine .escape hnew (fun hc => ?_) (ih h')
    have hnext := hreturn hc
    cases run with
    | nil => simpa using hnext
    | cons d run => exact hnext
  | joined he _ ih =>
    rw [List.cons_append, List.append_assoc]
    exact .joined he (ih h')
  | marked he _ ih =>
    rw [List.cons_append, List.cons_append, List.append_assoc]
    exact .marked he (ih h')

theorem LongRun.append (h : LongRun q (run' ++ after) run) (h' : LongRun q after run') :
    LongRun q after (run ++ run') := by
  induction h with
  | nil => exact h'
  | plain hback hquotes _ ih =>
    refine .plain hback (fun hc => ?_) ih
    have hnot := hquotes hc
    rwa [← List.append_assoc] at hnot
  | escape _ ih => exact .escape ih

/-- Where a text does not go on, there is no line end in it. -/
theorem ShortRun.first (h : ShortRun q next later run later') (hfirst : later' = false) :
    later = false ∧ '\n' ∉ run := by
  induction h with
  | nil => exact ⟨hfirst, List.not_mem_nil⟩
  | plain _ _ hnew _ ih => exact (ih hfirst).imp_right fun h => by simp [h, hnew.symm]
  | escape hnew _ _ ih => exact (ih hfirst).imp_right fun h => by simp [h, hnew.symm]
  | joined _ _ ih => cases (ih hfirst).1
  | marked _ _ ih => cases (ih hfirst).1

/-- That every line end but the first one stands behind a backslash. -/
def MarkedWithin (run : List Char) : Prop :=
  ∀ front back, run = front ++ '\n' :: back → '\n' ∈ front → ['\\'] <:+ front ∨ ['\\', '\r'] <:+ front

/-- A text in quotes that is closed, before what comes next. Where a text has been broken off, a long
one is closed only if its lines are marked. -/
inductive IsLiteral (armed : Bool) : List Char → List Char → Prop
  | short {q : Quote} {later : Bool} {run rest : List Char}
    (honce : ¬ [q.char, q.char] <+: run ++ q.char :: rest)
    (hrun : ShortRun q (some q.char) false run later) :
    IsLiteral armed (q.char :: (run ++ [q.char])) rest
  | long {q : Quote} {run rest : List Char} (hrun : LongRun q [q.char, q.char, q.char] run)
    (hmarks : armed = true → MarkedWithin run) :
    IsLiteral armed (q.char :: q.char :: q.char :: (run ++ [q.char, q.char, q.char])) rest

/-- That a quote starts nothing that is closed or goes on in the next line. -/
def IsStray (q : Quote) (rest : List Char) : Prop :=
  ¬ [q.char, q.char] <+: rest ∧ ∃ run tail, rest = run ++ tail ∧
    ShortRun q tail.head? false run false ∧ (tail = [] ∨ tail = ['\\'] ∨ tail.head? = some '\n')

/-- A text in quotes that goes over line ends and is broken off at one that is not marked. -/
inductive IsBroken (armed : Bool) : List Char → List Char → Prop
  | short {q : Quote} {run line part e rest : List Char} (honce : ¬ [q.char, q.char] <+: run)
    (hended : run.getLast? = some '\n') (hrun : ∀ next, ShortRun q next false run true)
    (hline : IsLine line rest) (hunmarked : isMarked line = false) (hsplit : line = part ++ e)
    (hpart : ShortRun q e.head? true part true) (he : e = [] ∨ e = ['\\'] ∨ e = ['\n']) :
    IsBroken armed (q.char :: (run ++ line)) rest
  | long {q : Quote} {run line part e rest : List Char} (harmed : armed = true)
    (hended : run.getLast? = some '\n') (hrun : ∀ after, LongRun q after run)
    (hmarks : MarkedWithin run) (hline : IsLine line rest) (hunmarked : isMarked line = false)
    (hsplit : line = part ++ e) (hpart : LongRun q e part) (he : e = [] ∨ e = ['\\']) :
    IsBroken armed (q.char :: q.char :: q.char :: (run ++ line)) rest

/-! ### Pieces -/

/-- A part of a text. -/
inductive Piece where
  | comment (c : Comment)
  | literal (text : List Char)
  | other (text : List Char)

def Piece.chars : Piece → List Char
  | .comment c => c.text
  | .literal text => text
  | .other text => text

def Piece.comment? : Piece → Option Comment
  | .comment c => some c
  | _ => none

/-- Where a piece can stand. -/
structure Spot where
  line : Nat
  /-- How many more brackets have been opened than closed. -/
  depth : Int
  /-- Whether a statement may start here, only blanks being in front of it on its line. -/
  start : Bool
  /-- Whether a text has been broken off and none been closed since that goes over a line end. -/
  armed : Bool

/-- That a piece stands at a spot before a text, which stands at another one. -/
inductive Stands : Spot → Piece → List Char → Spot → Prop
  | blank {s : Spot} {c : Char} {rest : List Char} (hstart : s.start = true)
    (hc : c ∈ [' ', '\t', '\x0c']) : Stands s (.other [c]) rest s
  /-- What stands behind a return in an empty line does not count. -/
  | emptyLine {s : Spot} {skipped rest : List Char} (hstart : s.start = true) (hskipped : '\n' ∉ skipped)
    (hrest : ∀ d ∈ rest.head?, d = '\n') : Stands s (.other ('\r' :: skipped)) rest s
  | lineEnd {s : Spot} {rest : List Char} :
    Stands s (.other ['\n']) rest { s with line := s.line + 1, start := s.depth = 0 }
  /-- A comment alone on its line goes on to the line end with the returns before it. -/
  | lone {s : Spot} {body rest : List Char} (hstart : s.start = true) (hbody : '\n' ∉ body)
    (hlast : body.getLast? ≠ some '\r')
    (hrest : ∀ d ∈ (rest.dropWhile (· == '\r')).head?, d = '\n') :
    Stands s (.comment ⟨s.line, '#' :: body⟩) rest s
  | comment {s : Spot} {body rest : List Char} (hstart : s.start = false) (hbody : OneLine body)
    (hrest : ∀ d ∈ rest.head?, d = '\n' ∨ d = '\r') :
    Stands s (.comment ⟨s.line, '#' :: body⟩) rest s
  | joined {s : Spot} {e rest : List Char} (he : e = ['\n'] ∨ e = ['\r', '\n']) :
    Stands s (.other ('\\' :: e)) rest { s with line := s.line + 1, start := false }
  | code {s : Spot} {c : Char} {rest : List Char} (hnew : c ≠ '\n') (hc : c ≠ '#')
    (hquote : quote? c = none) (hstart : s.start = true → c ∉ [' ', '\t', '\x0c', '\r'])
    (hback : c = '\\' → ¬ ['\n'] <+: rest ∧ ¬ ['\r', '\n'] <+: rest) :
    Stands s (.other [c]) rest { s with depth := s.depth + bracketChange c, start := false }
  | literal {s : Spot} {text rest : List Char} (h : IsLiteral s.armed text rest) :
    Stands s (.literal text) rest { s with
      line := s.line + text.count '\n', start := false, armed := s.armed && decide ('\n' ∉ text) }
  | stray {s : Spot} {q : Quote} {rest : List Char} (h : IsStray q rest) :
    Stands s (.other [q.char]) rest { s with start := false }
  | broken {s : Spot} {text rest : List Char} (h : IsBroken s.armed text rest) :
    Stands s (.other text) rest { s with
      line := s.line + text.count '\n', start := s.depth = 0, armed := true }

/-- That a text at a spot is cut into pieces. -/
inductive Cut : Spot → List Char → List Piece → Prop
  | nil (s : Spot) : Cut s [] []
  | cons {s s' : Spot} {p : Piece} {rest : List Char} {ps : List Piece} (hp : Stands s p rest s')
    (h : Cut s' rest ps) : Cut s (p.chars ++ rest) (p :: ps)

/-- Pieces are all of a text. -/
theorem Cut.flatMap_chars {s : Spot} {text : List Char} {ps : List Piece} (h : Cut s text ps) :
    ps.flatMap Piece.chars = text := by
  induction h with
  | nil => rfl
  | cons _ _ ih => rw [List.flatMap_cons, ih]

theorem Stands.ne_nil {s s' : Spot} {p : Piece} (h : Stands s p rest s') : p.chars ≠ [] := by
  cases h with
  | literal h => cases h <;> exact List.cons_ne_nil _ _
  | broken h => cases h <;> exact List.cons_ne_nil _ _
  | _ => exact List.cons_ne_nil _ _

theorem Cut.eq_nil {s : Spot} {text : List Char} {ps : List Piece} (h : Cut s text ps)
    (htext : text = []) : ps = [] := by
  cases h with
  | nil => rfl
  | cons hp _ => exact absurd (List.append_eq_nil_iff.mp htext).1 hp.ne_nil

theorem Stands.line_eq {s s' : Spot} {p : Piece} (h : Stands s p rest s') :
    s'.line = s.line + p.chars.count '\n' := by
  have hsame {part : List Char} (hpart : '\n' ∉ part) : s.line = s.line + part.count '\n' := by
    rw [List.count_eq_zero_of_not_mem hpart, Nat.add_zero]
  cases h with
  | blank _ hc => exact hsame fun hmem => absurd (List.mem_singleton.mp hmem ▸ hc) (by decide)
  | emptyLine _ hskipped => exact hsame (by simpa [Piece.chars] using hskipped)
  | lineEnd => rfl
  | lone _ hbody => exact hsame (by simpa [Piece.chars] using hbody)
  | comment _ hbody => exact hsame (by simpa [Piece.chars] using hbody.1)
  | joined he => rcases he with rfl | rfl <;> rfl
  | code hnew => exact hsame (by simpa [Piece.chars] using hnew.symm)
  | literal | broken => rfl
  | @stray q => exact hsame (by simpa [Piece.chars] using q.char_ne.2.1.symm)

theorem Stands.comment_eq {s s' : Spot} {c : Comment} (h : Stands s (.comment c) rest s') :
    c.line = s.line ∧ ∃ body, c.text = '#' :: body ∧ '\n' ∉ body := by
  cases h with
  | lone _ hbody => exact ⟨rfl, _, rfl, hbody⟩
  | comment _ hbody => exact ⟨rfl, _, rfl, hbody.1⟩

/-- A comment among the pieces of a text stands in the text, behind as many line ends as its line
tells. -/
theorem Cut.mem_comments {s : Spot} {text : List Char} {ps : List Piece} (h : Cut s text ps) {c : Comment}
    (hc : c ∈ ps.filterMap Piece.comment?) : ∃ before after body, text = before ++ c.text ++ after ∧
      c.line = s.line + before.count '\n' ∧ c.text = '#' :: body ∧ '\n' ∉ body := by
  induction h with
  | nil => cases hc
  | @cons s s' p rest ps hp _ ih =>
    obtain ⟨p', hp', hcomment⟩ := List.mem_filterMap.mp hc
    rcases List.mem_cons.mp hp' with rfl | hmem
    · cases p' with
      | comment c' =>
        obtain rfl := Option.some.inj hcomment
        obtain ⟨hline, body, hbody, hnew⟩ := hp.comment_eq
        exact ⟨[], rest, body, rfl, hline, hbody, hnew⟩
      | literal | other => cases hcomment
    · obtain ⟨before, after, body, rfl, hline, hbody⟩ := ih (List.mem_filterMap.mpr ⟨p', hmem, hcomment⟩)
      refine ⟨p.chars ++ before, after, body, by simp, ?_, hbody⟩
      rw [hline, hp.line_eq, List.count_append, Nat.add_assoc]

/-! ### Marks of lines -/

theorem IsLine.eq_append {front back : List Char} (h : IsLine line more)
    (hsplit : line = front ++ '\n' :: back) : '\n' ∉ front ∧ back = [] := by
  rcases h with ⟨hnew, -⟩ | ⟨body, hbody, rfl⟩
  · exact absurd (hsplit ▸ by simp) hnew
  · rcases List.append_eq_append_iff.mp hsplit with ⟨more, rfl, hmore⟩ | ⟨more, rfl, hmore⟩
    · cases more with
      | nil => exact ⟨by simpa using hbody, (List.cons.inj hmore).2.symm⟩
      | cons d more => simp at hmore
    · cases more with
      | nil => exact ⟨by simpa using hbody, (List.cons.inj hmore).2⟩
      | cons d more =>
        obtain ⟨rfl, -⟩ := List.cons.inj hmore
        exact absurd (by simp) hbody

theorem markedWithin_line (h : IsLine line more) : MarkedWithin line :=
  fun _ _ hsplit hnew => absurd hnew (h.eq_append hsplit).1

/-- That a backslash stands before a line end if there is one. -/
def HasMark (line : List Char) : Prop :=
  ∀ front back, line = front ++ '\n' :: back → ['\\'] <:+ front ∨ ['\\', '\r'] <:+ front

theorem hasMark_of_isMarked (h : IsLine line more) (hmarked : isMarked line = true) : HasMark line := by
  intro front back hsplit
  obtain rfl := (h.eq_append hsplit).2
  rw [isMarked_iff, hsplit] at hmarked
  rcases hmarked with ⟨before, heq⟩ | ⟨before, heq⟩
  · have hfront : before ++ ['\\'] ++ ['\n'] = front ++ ['\n'] := by simpa using heq
    exact .inl ⟨before, List.append_cancel_right hfront⟩
  · have hfront : before ++ ['\\', '\r'] ++ ['\n'] = front ++ ['\n'] := by simpa using heq
    exact .inr ⟨before, List.append_cancel_right hfront⟩

theorem hasMark_of_notMem (h : '\n' ∉ line) : HasMark line :=
  fun _ _ hsplit => absurd (hsplit ▸ by simp) h

theorem MarkedWithin.append (h : MarkedWithin run) (hline : HasMark line) :
    MarkedWithin (run ++ line) := by
  intro front back hsplit hnew
  rcases List.append_eq_append_iff.mp hsplit with ⟨more, rfl, hmore⟩ | ⟨more, rfl, hmore⟩
  · have hbehind := List.suffix_append run more
    exact (hline more back hmore).imp (·.trans hbehind) (·.trans hbehind)
  · cases more with
    | nil =>
      rcases hline [] back hmore.symm with hmark | hmark
      · cases List.suffix_nil.mp hmark
      · cases List.suffix_nil.mp hmark
    | cons d more =>
      obtain ⟨rfl, -⟩ := List.cons.inj hmore
      exact h front more rfl hnew

/-- Quotes in front of a line with its line end stand in the line. -/
theorem quotes_of_append (hnew : '\n' ∈ line) (h : [q.char, q.char] <+: line ++ after) :
    [q.char, q.char] <+: line := by
  match line, hnew, h with
  | [c], hnew, h =>
    obtain rfl := List.mem_singleton.mp hnew
    exact absurd (List.cons_prefix_cons.mp h).1 q.char_ne.2.1
  | c :: d :: rest, _, h =>
    obtain ⟨hc, h⟩ := List.cons_prefix_cons.mp h
    exact ⟨rest, by rw [← hc, ← (List.cons_prefix_cons.mp h).1]; rfl⟩

/-- What a line has with what follows it up to a line end, it has itself. -/
theorem IsLine.prefix_of_append {e : List Char} (h : IsLine line more) (he : '\n' ∉ e.dropLast)
    (happend : e <+: line ++ more) : e <+: line := by
  rcases h with ⟨-, rfl⟩ | ⟨body, -, rfl⟩
  · rwa [List.append_nil] at happend
  rcases List.prefix_or_prefix_of_prefix happend (List.prefix_append (body ++ ['\n']) more) with
    hline | ⟨back, rfl⟩
  · exact hline
  · cases back with
    | nil => rw [List.append_nil]
    | cons d back =>
      rw [List.append_assoc, List.dropLast_append_of_ne_nil (by simp)] at he
      exact absurd (by simp) he

theorem IsLine.ends (h : IsLine line more) (hnew : '\n' ∈ line) :
    line.count '\n' = 1 ∧ line.getLast? = some '\n' := by
  rcases h with ⟨hnone, -⟩ | ⟨body, hbody, rfl⟩
  · exact absurd hnew hnone
  · simp [List.count_eq_zero_of_not_mem hbody]

/-! ### How far short texts go -/

variable {run₁ run₂ tail₁ tail₂ tail : List Char} {later₁ later₂ : Bool}

/-- That characters of a short text do not go on. A line end is none of them where the text has gone
over one and no backslash stands before it. -/
def ShortStop (q : Quote) (later : Bool) (run tail : List Char) : Prop :=
  tail = [] ∨ tail = ['\\'] ∨ tail.head? = some q.char ∨
    tail.head? = some '\n' ∧ (later = true → ¬ ['\\'] <:+ run ∧ ¬ ['\\', '\r'] <:+ run)

theorem ShortStop.of_append (part : List Char) (h : ShortStop q later (part ++ run) tail) :
    ShortStop q later run tail := by
  have hbehind := List.suffix_append part run
  refine h.imp_right (.imp_right (.imp_right fun ⟨hhead, hmarks⟩ => ⟨hhead, fun hlater => ?_⟩))
  exact (hmarks hlater).imp (fun hnot hmark => hnot (hmark.trans hbehind))
    (fun hnot hmark => hnot (hmark.trans hbehind))

theorem ShortStop.head (h : ShortStop q later run (c :: tail)) :
    c = q.char ∨ c = '\n' ∨ c = '\\' ∧ tail = [] := by
  rcases h with h | h | h | ⟨h, -⟩
  · cases h
  · exact .inr (.inr (List.cons.inj h))
  · exact .inl (Option.some.inj h)
  · exact .inr (.inl (Option.some.inj h))

/-- Where characters stop, there are no more of them. -/
theorem ShortRun.eq_nil (h : ShortRun q next later run later') (hstop : ShortStop q later₁ run₁ tail₁)
    (heq : run ++ tail = tail₁) : run = [] := by
  obtain ⟨hback, -⟩ := q.char_ne
  subst heq
  cases h with
  | nil => rfl
  | plain hquote hback' hnew =>
    rcases hstop.head with hc | hc | ⟨hc, -⟩
    · exact absurd hc hquote
    · exact absurd hc hnew
    · exact absurd hc hback'
  | escape =>
    rcases hstop.head with hc | hc | ⟨-, hnil⟩
    · exact absurd hc.symm hback
    · exact absurd hc (by decide)
    · cases hnil
  | joined he =>
    rcases hstop.head with hc | hc | ⟨-, hnil⟩
    · exact absurd hc.symm hback
    · exact absurd hc (by decide)
    · rcases he with rfl | rfl <;> cases hnil
  | marked he =>
    rcases hstop.head with hc | hc | ⟨-, hnil⟩
    · exact absurd hc.symm hback
    · exact absurd hc (by decide)
    · cases hnil

theorem ShortRun.head_newline (h : ShortRun q next later run later') : run.head? ≠ some '\n' := by
  intro hhead
  cases h with
  | nil => cases hhead
  | plain _ _ hnew => exact hnew (Option.some.inj hhead)
  | escape | joined | marked => exact absurd (Option.some.inj hhead) (by decide)

/-- A backslash in front of a line end belongs to it, if it is not the last one of two that stand
in the first line of a text. -/
theorem ShortRun.not_joined (hnew : c ≠ '\n')
    (hreturn : c = '\r' → (run.head?.or tail.head?) ≠ some '\n') {e : List Char}
    (he : e = ['\n'] ∨ e = ['\r', '\n']) : c :: (run ++ tail) ≠ e ++ rest := by
  rintro heq
  rcases he with rfl | rfl
  · exact hnew (List.cons.inj heq).1
  · obtain ⟨rfl, hrest⟩ := List.cons.inj heq
    exact hreturn rfl (by rw [← List.head?_append, hrest]; rfl)

theorem ShortRun.not_marked (h : ShortRun q tail.head? true run later')
    (hstop : ShortStop q later' ('\\' :: '\\' :: run) tail) {e : List Char}
    (he : e = ['\n'] ∨ e = ['\r', '\n']) : run ++ tail ≠ e ++ rest := by
  obtain ⟨-, hnew, hreturn, -⟩ := q.char_ne
  have hlater : later' = true := by
    cases later' with
    | true => rfl
    | false => cases (h.first rfl).1
  have hmarks (hhead : tail.head? = some '\n') :
      ¬ ['\\'] <:+ '\\' :: '\\' :: run ∧ ¬ ['\\', '\r'] <:+ '\\' :: '\\' :: run := by
    rcases hstop with rfl | rfl | hquote | ⟨-, hmarks⟩
    · cases hhead
    · cases hhead
    · exact absurd (Option.some.inj (hquote.symm.trans hhead)) hnew
    · exact hmarks hlater
  intro heq
  rcases he with rfl | rfl
  · cases run with
    | nil => exact (hmarks (by rw [show tail = '\n' :: rest from heq]; rfl)).1 ⟨['\\'], rfl⟩
    | cons d run =>
      obtain ⟨rfl, -⟩ := List.cons.inj heq
      exact h.head_newline rfl
  · cases run with
    | nil =>
      obtain rfl : tail = '\r' :: '\n' :: rest := heq
      rcases hstop.head with hc | hc | ⟨hc, -⟩
      · exact hreturn hc.symm
      · cases hc
      · cases hc
    | cons d run =>
      obtain ⟨rfl, hrest⟩ := List.cons.inj heq
      cases run with
      | nil => exact (hmarks (by rw [show tail = '\n' :: rest from hrest]; rfl)).2 ⟨['\\'], rfl⟩
      | cons d' run =>
        obtain ⟨rfl, -⟩ := List.cons.inj hrest
        cases h with
        | plain _ _ _ h => exact h.head_newline rfl

theorem lineEnd_unique {e e' : List Char} (he : e = ['\n'] ∨ e = ['\r', '\n'])
    (he' : e' = ['\n'] ∨ e' = ['\r', '\n']) (heq : e ++ run = e' ++ run') : e = e' ∧ run = run' := by
  rcases he with rfl | rfl <;> rcases he' with rfl | rfl
  · exact ⟨rfl, List.append_cancel_left heq⟩
  · exact absurd (List.cons.inj heq).1 (by decide)
  · exact absurd (List.cons.inj heq).1 (by decide)
  · exact ⟨rfl, List.append_cancel_left heq⟩

theorem lineEnd_ne {e : List Char} (he : e = ['\n'] ∨ e = ['\r', '\n']) : e ++ run ≠ '\\' :: run' := by
  rcases he with rfl | rfl <;> exact fun heq => absurd (List.cons.inj heq).1 (by decide)

/-- There is one way at most to go up to where a text stops. -/
theorem ShortRun.unique (h₁ : ShortRun q tail₁.head? later run₁ later₁)
    (h₂ : ShortRun q tail₂.head? later run₂ later₂) (hstop₁ : ShortStop q later₁ run₁ tail₁)
    (hstop₂ : ShortStop q later₂ run₂ tail₂) (heq : run₁ ++ tail₁ = run₂ ++ tail₂) :
    run₁ = run₂ ∧ later₁ = later₂ := by
  induction h₁ generalizing run₂ with
  | nil =>
    obtain rfl := h₂.eq_nil hstop₁ heq.symm
    cases h₂
    exact ⟨rfl, rfl⟩
  | @plain later later₁ c run₁ hquote hback hnew h ih =>
    cases h₂ with
    | nil =>
      exact absurd ((ShortRun.plain hquote hback hnew h).eq_nil hstop₂ heq) (List.cons_ne_nil _ _)
    | plain _ _ _ h₂ =>
      obtain ⟨rfl, heq'⟩ := List.cons.inj heq
      obtain ⟨rfl, rfl⟩ := ih h₂ (.of_append [c] hstop₁) (.of_append [c] hstop₂) heq'
      exact ⟨rfl, rfl⟩
    | escape | joined | marked => exact absurd (List.cons.inj heq).1 hback
  | @escape later later₁ c run₁ hnew hreturn h ih =>
    cases h₂ with
    | nil => exact absurd ((ShortRun.escape hnew hreturn h).eq_nil hstop₂ heq) (List.cons_ne_nil _ _)
    | plain _ hback => exact absurd (List.cons.inj heq).1.symm hback
    | escape _ _ h₂ =>
      obtain ⟨rfl, heq'⟩ := List.cons.inj (List.cons.inj heq).2
      obtain ⟨rfl, rfl⟩ := ih h₂ (.of_append ['\\', c] hstop₁) (.of_append ['\\', c] hstop₂) heq'
      exact ⟨rfl, rfl⟩
    | joined he =>
      simp only [List.cons_append, List.append_assoc, List.cons.injEq, true_and] at heq
      exact absurd heq (ShortRun.not_joined hnew hreturn he)
    | marked he =>
      simp only [List.cons_append, List.append_assoc, List.cons.injEq, true_and] at heq
      obtain ⟨rfl, heq'⟩ := heq
      exact absurd heq' (h.not_marked hstop₁ he)
  | @joined later later₁ e run₁ he h ih =>
    cases h₂ with
    | nil =>
      have hrun : ShortRun q tail₁.head? later ('\\' :: (e ++ run₁)) later₁ := .joined he h
      exact absurd (hrun.eq_nil hstop₂ heq) (List.cons_ne_nil _ _)
    | plain _ hback => exact absurd (List.cons.inj heq).1.symm hback
    | escape hnew hreturn =>
      simp only [List.cons_append, List.append_assoc, List.cons.injEq, true_and] at heq
      exact absurd heq.symm (ShortRun.not_joined hnew hreturn he)
    | @joined _ _ _ _ he' h₂ =>
      simp only [List.cons_append, List.append_assoc, List.cons.injEq, true_and] at heq
      obtain ⟨rfl, heq'⟩ := lineEnd_unique he he' heq
      obtain ⟨rfl, rfl⟩ := ih h₂ (.of_append ('\\' :: e) hstop₁) (.of_append ('\\' :: e) hstop₂) heq'
      exact ⟨rfl, rfl⟩
    | marked he' =>
      simp only [List.cons_append, List.append_assoc, List.cons.injEq, true_and] at heq
      exact absurd heq (lineEnd_ne he)
  | @marked later₁ e run₁ he h ih =>
    cases h₂ with
    | nil => exact absurd ((ShortRun.marked he h).eq_nil hstop₂ heq) (List.cons_ne_nil _ _)
    | plain _ hback => exact absurd (List.cons.inj heq).1.symm hback
    | escape _ _ h₂ =>
      simp only [List.cons_append, List.append_assoc, List.cons.injEq, true_and] at heq
      obtain ⟨rfl, heq'⟩ := heq
      exact absurd heq'.symm (h₂.not_marked hstop₂ he)
    | joined he' =>
      simp only [List.cons_append, List.append_assoc, List.cons.injEq, true_and] at heq
      exact absurd heq.symm (lineEnd_ne he')
    | @marked _ _ _ he' h₂ =>
      simp only [List.cons_append, List.append_assoc, List.cons.injEq, true_and] at heq
      obtain ⟨rfl, heq'⟩ := lineEnd_unique he he' heq
      obtain ⟨rfl, rfl⟩ := ih h₂ (.of_append ('\\' :: '\\' :: e) hstop₁)
        (.of_append ('\\' :: '\\' :: e) hstop₂) heq'
      exact ⟨rfl, rfl⟩

/-- What is part of a text behind a line end is part of what stands behind it. -/
theorem suffix_of_newline {e : List Char} (hlast : run.getLast? = some '\n') (he : '\n' ∉ e)
    (h : e <:+ run ++ rest) : e <:+ rest := by
  rcases List.suffix_or_suffix_of_suffix h (List.suffix_append run rest) with hrest | ⟨front, rfl⟩
  · exact hrest
  · obtain ⟨before, hbefore⟩ := h
    rw [← List.append_assoc] at hbefore
    obtain rfl := List.append_cancel_right hbefore
    rcases List.eq_nil_or_concat front with rfl | ⟨front, d, rfl⟩
    · exact List.suffix_rfl
    · rw [List.concat_eq_append, ← List.append_assoc, List.getLast?_concat] at hlast
      obtain rfl := Option.some.inj hlast
      exact absurd (by simp) he

theorem ShortRun.isMarked (h : ShortRun q next later run later') (hlast : run.getLast? = some '\n') :
    isMarked run = true := by
  have hbehind (part : List Char) {run : List Char} (hlast : (part ++ run).getLast? = some '\n') (hne : run ≠ [])
      (ih : run.getLast? = some '\n' → Comment.isMarked run = true) :
      Comment.isMarked (part ++ run) = true := by
    rw [List.getLast?_append_of_ne_nil _ hne] at hlast
    have hsuffix := List.suffix_append part run
    exact isMarked_iff.mpr ((isMarked_iff.mp (ih hlast)).imp (·.trans hsuffix) (·.trans hsuffix))
  induction h with
  | nil => cases hlast
  | @plain _ _ c run _ _ hnew _ ih =>
    by_cases hrun : run = []
    · subst hrun
      exact absurd (Option.some.inj hlast) hnew
    · exact hbehind [c] hlast hrun ih
  | @escape _ _ c run hnew _ _ ih =>
    by_cases hrun : run = []
    · subst hrun
      exact absurd (Option.some.inj hlast) hnew
    · exact hbehind ['\\', c] hlast hrun ih
  | @joined _ _ e run he _ ih =>
    by_cases hrun : run = []
    · subst hrun
      rcases he with rfl | rfl <;> rfl
    · exact hbehind ('\\' :: e) hlast hrun ih
  | @marked _ e run he _ ih =>
    by_cases hrun : run = []
    · subst hrun
      rcases he with rfl | rfl <;> rfl
    · exact hbehind ('\\' :: '\\' :: e) hlast hrun ih

/-- A text that is broken off stops in the line at which it is, and is broken off behind this line. -/
theorem exists_stop_of_broken {part e : List Char} (hended : run.getLast? = some '\n')
    (hrun : ∀ next, ShortRun q next false run true) (hline : IsLine line rest)
    (hunmarked : isMarked line = false) (hsplit : line = part ++ e)
    (hpart : ShortRun q e.head? true part true) (he : e = [] ∨ e = ['\\'] ∨ e = ['\n']) :
    ∃ stopped tail, run ++ line ++ rest = stopped ++ tail ∧
      ShortRun q tail.head? false stopped true ∧ ShortStop q true stopped tail ∧
      tail.head? ≠ some q.char ∧ run ++ line = stopped ++ tail.take 1 := by
  obtain ⟨hback, hnew, -⟩ := q.char_ne
  subst hsplit
  have hrest (hne : e ≠ ['\n']) : rest = [] := by
    refine hline.more_eq_nil fun hmem => ?_
    have hlast := (hline.ends hmem).2
    rcases he with rfl | rfl | rfl
    · rw [List.append_nil] at hlast hunmarked
      exact absurd (hpart.isMarked hlast) (Bool.eq_false_iff.mp hunmarked)
    · rw [List.getLast?_concat] at hlast
      cases hlast
    · exact hne rfl
  have hmarks : ¬ ['\\', '\n'] <:+ part ++ e ∧ ¬ ['\\', '\r', '\n'] <:+ part ++ e :=
    not_or.mp fun hmark => Bool.eq_false_iff.mp hunmarked (isMarked_iff.mpr hmark)
  rcases he with rfl | rfl | rfl
  · rw [hrest (by simp)]
    refine ⟨run ++ part, [], by simp, (hrun _).append hpart, .inl rfl, by simp, by simp⟩
  · rw [hrest (by simp)]
    refine ⟨run ++ part, ['\\'], by simp, (hrun _).append hpart, .inr (.inl rfl), ?_, by simp⟩
    exact fun hquote => hback (Option.some.inj hquote).symm
  · refine ⟨run ++ part, '\n' :: rest, by simp, (hrun _).append hpart,
      .inr (.inr (.inr ⟨rfl, fun _ => ⟨fun hmark => ?_, fun hmark => ?_⟩⟩)), ?_, by simp⟩
    · obtain ⟨front, rfl⟩ := suffix_of_newline hended (by decide) hmark
      exact hmarks.1 ⟨front, by simp⟩
    · obtain ⟨front, rfl⟩ := suffix_of_newline hended (by decide) hmark
      exact hmarks.2 ⟨front, by simp⟩
    · exact fun hquote => hnew (Option.some.inj hquote).symm

/-! ### How far long texts go -/

/-- Of two ways to go through a long text, one goes on where the other one ends. -/
theorem LongRun.comparable (h₁ : LongRun q tail₁ run₁) (h₂ : LongRun q tail₂ run₂)
    (heq : run₁ ++ tail₁ = run₂ ++ tail₂) :
    (∃ more, run₂ = run₁ ++ more ∧ LongRun q tail₂ more) ∨
      ∃ more, run₁ = run₂ ++ more ∧ LongRun q tail₁ more := by
  induction h₁ generalizing run₂ with
  | nil => exact .inl ⟨run₂, rfl, h₂⟩
  | @plain c run₁ hback hquotes h ih =>
    cases h₂ with
    | nil => exact .inr ⟨c :: run₁, rfl, .plain hback hquotes h⟩
    | plain _ _ h₂ =>
      obtain ⟨rfl, heq'⟩ := List.cons.inj heq
      rcases ih h₂ heq' with ⟨more, rfl, hmore⟩ | ⟨more, rfl, hmore⟩
      · exact .inl ⟨more, rfl, hmore⟩
      · exact .inr ⟨more, rfl, hmore⟩
    | escape => exact absurd (List.cons.inj heq).1 hback
  | @escape c run₁ h ih =>
    cases h₂ with
    | nil => exact .inr ⟨'\\' :: c :: run₁, rfl, .escape h⟩
    | plain hback => exact absurd (List.cons.inj heq).1.symm hback
    | escape h₂ =>
      obtain ⟨rfl, heq'⟩ := List.cons.inj (List.cons.inj heq).2
      rcases ih h₂ heq' with ⟨more, rfl, hmore⟩ | ⟨more, rfl, hmore⟩
      · exact .inl ⟨more, rfl, hmore⟩
      · exact .inr ⟨more, rfl, hmore⟩

/-- Before three quotes a long text does not go on. -/
theorem LongRun.eq_nil (h : LongRun q after run)
    (hquotes : [q.char, q.char, q.char] <+: run ++ after) : run = [] := by
  cases h with
  | nil => rfl
  | plain hback hnot =>
    obtain ⟨hc, hmore⟩ := List.cons_prefix_cons.mp hquotes
    exact absurd hmore (hnot hc.symm)
  | escape => exact absurd (List.cons_prefix_cons.mp hquotes).1 q.char_ne.1

/-- What comes behind two characters that come next does not matter. -/
theorem LongRun.append_after (h : LongRun q after run) (hafter : 2 ≤ after.length) (rest : List Char) :
    LongRun q (after ++ rest) run := by
  induction h with
  | nil => exact .nil
  | plain hback hquotes _ ih =>
    refine .plain hback (fun hc hmore => hquotes hc ?_) ih
    rw [← List.append_assoc] at hmore
    exact List.prefix_of_prefix_length_le hmore (List.prefix_append _ _) (by simp; omega)
  | escape _ ih => exact .escape ih

theorem LongRun.unique {rest₁ rest₂ : List Char} (h₁ : LongRun q [q.char, q.char, q.char] run₁)
    (h₂ : LongRun q [q.char, q.char, q.char] run₂)
    (heq : run₁ ++ [q.char, q.char, q.char] ++ rest₁ = run₂ ++ [q.char, q.char, q.char] ++ rest₂) :
    run₁ = run₂ := by
  rw [List.append_assoc, List.append_assoc] at heq
  have h₁' := h₁.append_after (by simp) rest₁
  have h₂' := h₂.append_after (by simp) rest₂
  rcases h₁'.comparable h₂' heq with ⟨more, rfl, hmore⟩ | ⟨more, rfl, hmore⟩
  · rw [List.append_assoc] at heq
    have hquotes := List.append_cancel_left heq
    rw [hmore.eq_nil (hquotes ▸ List.prefix_append _ _), List.append_nil]
  · rw [List.append_assoc] at heq
    have hquotes := List.append_cancel_left heq
    rw [hmore.eq_nil (hquotes ▸ List.prefix_append _ _), List.append_nil]

/-- Where a long text goes through a line end, it goes on whatever comes next. -/
theorem LongRun.of_getLast? (h : LongRun q after run) (hlast : run.getLast? = some '\n')
    (after' : List Char) : LongRun q after' run := by
  obtain ⟨-, hnew, -⟩ := q.char_ne
  induction h with
  | nil => cases hlast
  | @plain c run hback hquotes h ih =>
    by_cases hrun : run = []
    · subst hrun
      obtain rfl := Option.some.inj hlast
      exact .plain hback (fun hc => absurd hc.symm hnew) .nil
    · have hlast' : run.getLast? = some '\n' := by
        rwa [List.getLast?_cons_of_ne_nil hrun] at hlast
      refine .plain hback (fun hc hmore => hquotes hc ?_) (ih hlast')
      exact (quotes_of_append (List.mem_of_getLast? hlast') hmore).trans (List.prefix_append _ _)
  | @escape c run h ih =>
    by_cases hrun : run = []
    · subst hrun
      exact .escape .nil
    · refine .escape (ih ?_)
      rwa [List.getLast?_cons_of_ne_nil (List.cons_ne_nil _ _), List.getLast?_cons_of_ne_nil hrun] at hlast

/-! ### Lines at which long texts are broken off -/

/-- Within a text that is broken off, line ends are marked. -/
theorem marks_of_append {front back : List Char} (hmarks : MarkedWithin run) (hline : IsLine line more)
    (hsplit : run ++ line = front ++ '\n' :: back) (hback : back ≠ []) (hnew : '\n' ∈ front) :
    ['\\'] <:+ front ∨ ['\\', '\r'] <:+ front := by
  rcases List.append_eq_append_iff.mp hsplit with ⟨part, rfl, hpart⟩ | ⟨part, rfl, hpart⟩
  · exact absurd (hline.eq_append hpart).2 hback
  · cases part with
    | nil => exact absurd (hline.eq_append (show line = [] ++ '\n' :: back from hpart.symm)).2 hback
    | cons d part =>
      obtain ⟨rfl, -⟩ := List.cons.inj hpart
      exact hmarks front part rfl hnew

/-- The line at which a text is broken off is not marked. -/
theorem not_marks_of_append {body : List Char} (hended : run.getLast? = some '\n')
    (hunmarked : isMarked (body ++ ['\n']) = false) :
    ¬ (['\\'] <:+ run ++ body ∨ ['\\', '\r'] <:+ run ++ body) := by
  rintro (hmark | hmark)
  · obtain ⟨front, rfl⟩ := suffix_of_newline hended (by decide) hmark
    exact Bool.eq_false_iff.mp hunmarked (isMarked_iff.mpr (.inl ⟨front, by simp⟩))
  · obtain ⟨front, rfl⟩ := suffix_of_newline hended (by decide) hmark
    exact Bool.eq_false_iff.mp hunmarked (isMarked_iff.mpr (.inr ⟨front, by simp⟩))

theorem broken_append_eq {x : List Char} {run' line' rest' : List Char}
    (hended : run.getLast? = some '\n') (hline : IsLine line rest) (hunmarked : isMarked line = false)
    (hmarks' : MarkedWithin run') (hline' : IsLine line' rest')
    (heq : run' ++ line' = run ++ line ++ x) (hrest : rest = x ++ rest') : x = [] := by
  rcases hline with ⟨-, rfl⟩ | ⟨body, -, rfl⟩
  · exact (List.append_eq_nil_iff.mp hrest.symm).1
  · by_contra hx
    refine not_marks_of_append hended hunmarked ?_
    exact marks_of_append hmarks' hline' (heq.trans (by simp)) hx
      (List.mem_append_left _ (List.mem_of_getLast? hended))

/-- There is one line at most at which a long text is broken off. -/
theorem broken_unique {run' line' rest' : List Char} (hended : run.getLast? = some '\n')
    (hended' : run'.getLast? = some '\n') (hmarks : MarkedWithin run) (hmarks' : MarkedWithin run')
    (hline : IsLine line rest) (hline' : IsLine line' rest') (hunmarked : isMarked line = false)
    (hunmarked' : isMarked line' = false) (heq : run ++ line ++ rest = run' ++ line' ++ rest') :
    run ++ line = run' ++ line' := by
  rcases List.append_eq_append_iff.mp heq with ⟨x, heq', hrest⟩ | ⟨x, heq', hrest⟩
  · obtain rfl := broken_append_eq hended hline hunmarked hmarks' hline' heq' hrest
    rw [heq', List.append_nil]
  · obtain rfl := broken_append_eq hended' hline' hunmarked' hmarks hline heq' hrest
    rw [heq', List.append_nil]

/-- A long text that is broken off is not closed. -/
theorem not_closed_of_broken {run' rest' part e : List Char} (hended : run.getLast? = some '\n')
    (hrun : ∀ after, LongRun q after run) (hline : IsLine line rest)
    (hunmarked : isMarked line = false) (hsplit : line = part ++ e) (hpart : LongRun q e part)
    (he : e = [] ∨ e = ['\\']) (hrun' : LongRun q [q.char, q.char, q.char] run')
    (hmarks' : MarkedWithin run') :
    run ++ line ++ rest ≠ run' ++ [q.char, q.char, q.char] ++ rest' := by
  intro heq
  have hclosed := hrun'.append_after (by simp) rest'
  rw [List.append_assoc run'] at heq
  rcases hline with ⟨hnew, rfl⟩ | ⟨body, hbody, rfl⟩
  · -- the text ends in the line, with less than three quotes behind what has been gone through
    subst hsplit
    rw [List.append_nil, ← List.append_assoc] at heq
    rcases ((hrun _).append hpart).comparable hclosed heq with ⟨more, rfl, -⟩ | ⟨more, hmore, hrest⟩
    · rw [List.append_assoc _ more] at heq
      have hlength := congrArg List.length (List.append_cancel_left heq)
      rw [List.length_append, List.length_append] at hlength
      rcases he with rfl | rfl <;> dsimp at hlength <;> omega
    · rw [hmore, List.append_assoc] at heq
      have hquotes := List.append_cancel_left heq
      obtain rfl := hrest.eq_nil (hquotes ▸ List.prefix_append _ _)
      have hlength := congrArg List.length hquotes
      rcases he with rfl | rfl <;> simp at hlength
  · have hend : e = [] := he.resolve_right fun hback => by
      subst hback
      exact absurd (List.append_inj_right' hsplit rfl) (by decide)
    subst hend
    rw [List.append_nil] at hsplit
    have hgoes := hpart.of_getLast? (hsplit ▸ List.getLast?_concat) rest
    rw [← hsplit] at hgoes
    obtain ⟨more, rfl⟩ : ∃ more, run' = run ++ (body ++ ['\n']) ++ more := by
      rcases ((hrun _).append hgoes).comparable hclosed heq with
        ⟨more, hmore, -⟩ | ⟨more, hmore, hrest⟩
      · exact ⟨more, hmore⟩
      · rw [hmore, List.append_assoc] at heq
        obtain rfl := hrest.eq_nil (List.append_cancel_left heq ▸ List.prefix_append _ _)
        exact ⟨[], by rw [hmore, List.append_nil, List.append_nil]⟩
    refine not_marks_of_append hended hunmarked ?_
    exact hmarks' (run ++ body) more (by simp) (List.mem_append_left _ (List.mem_of_getLast? hended))

/-! ### Ways to cut a text -/

section Ways

variable {s s' s₁ s₂ : Spot} {p p₁ p₂ : Piece} {rest₁ rest₂ : List Char}

/-- The piece that a quote is part of where a short text stops, and where the next one stands. -/
def afterShort (s : Spot) (q : Quote) (stopped tail : List Char) (later : Bool) : Piece × Spot :=
  if tail.head? = some q.char then
    (.literal (q.char :: (stopped ++ [q.char])), { s with
      line := s.line + (q.char :: (stopped ++ [q.char])).count '\n', start := false,
      armed := s.armed && decide ('\n' ∉ q.char :: (stopped ++ [q.char])) })
  else if later = true then
    (.other (q.char :: (stopped ++ tail.take 1)), { s with
      line := s.line + (q.char :: (stopped ++ tail.take 1)).count '\n', start := s.depth = 0,
      armed := true })
  else (.other [q.char], { s with start := false })

/-- What can stand at a quote. -/
inductive StandsAtQuote (s : Spot) (q : Quote) (text : List Char) : Piece → Spot → Prop
  | short {stopped tail : List Char} {later : Bool} (htext : text = stopped ++ tail)
    (honce : ¬ [q.char, q.char] <+: text) (hrun : ShortRun q tail.head? false stopped later)
    (hstop : ShortStop q later stopped tail) :
    StandsAtQuote s q text (afterShort s q stopped tail later).1 (afterShort s q stopped tail later).2
  | closed {run rest : List Char}
    (htext : text = q.char :: q.char :: (run ++ [q.char, q.char, q.char] ++ rest))
    (hrun : LongRun q [q.char, q.char, q.char] run) (hmarks : s.armed = true → MarkedWithin run) :
    StandsAtQuote s q text
      (.literal (q.char :: q.char :: q.char :: (run ++ [q.char, q.char, q.char]))) { s with
        line := s.line +
          (q.char :: q.char :: q.char :: (run ++ [q.char, q.char, q.char])).count '\n',
        start := false,
        armed := s.armed && decide
          ('\n' ∉ q.char :: q.char :: q.char :: (run ++ [q.char, q.char, q.char])) }
  | broken {run line part e rest : List Char} (htext : text = q.char :: q.char :: (run ++ line ++ rest))
    (harmed : s.armed = true) (hended : run.getLast? = some '\n') (hrun : ∀ after, LongRun q after run)
    (hmarks : MarkedWithin run) (hline : IsLine line rest) (hunmarked : isMarked line = false)
    (hsplit : line = part ++ e) (hpart : LongRun q e part) (he : e = [] ∨ e = ['\\']) :
    StandsAtQuote s q text (.other (q.char :: q.char :: q.char :: (run ++ line))) { s with
      line := s.line + (q.char :: q.char :: q.char :: (run ++ line)).count '\n',
      start := s.depth = 0, armed := true }

theorem StandsAtQuote.unique {text : List Char} (h₁ : StandsAtQuote s q text p₁ s₁)
    (h₂ : StandsAtQuote s q text p₂ s₂) : p₁ = p₂ ∧ s₁ = s₂ := by
  cases h₁ with
  | short htext₁ honce₁ hrun₁ hstop₁ =>
    cases h₂ with
    | short htext₂ _ hrun₂ hstop₂ =>
      obtain ⟨rfl, rfl⟩ := hrun₁.unique hrun₂ hstop₁ hstop₂ (htext₁.symm.trans htext₂)
      obtain rfl := List.append_cancel_left (htext₁.symm.trans htext₂)
      exact ⟨rfl, rfl⟩
    | closed htext₂ | broken htext₂ => exact absurd ⟨_, htext₂.symm⟩ honce₁
  | closed htext₁ hrun₁ hmarks₁ =>
    cases h₂ with
    | short _ honce₂ => exact absurd ⟨_, htext₁.symm⟩ honce₂
    | closed htext₂ hrun₂ =>
      obtain ⟨-, htext⟩ := List.cons.inj (List.cons.inj (htext₁.symm.trans htext₂)).2
      obtain rfl := hrun₁.unique hrun₂ htext
      exact ⟨rfl, rfl⟩
    | broken htext₂ harmed₂ hended₂ hrun₂ _ hline₂ hunmarked₂ hsplit₂ hpart₂ he₂ =>
      obtain ⟨-, htext⟩ := List.cons.inj (List.cons.inj (htext₂.symm.trans htext₁)).2
      exact absurd htext (not_closed_of_broken hended₂ hrun₂ hline₂ hunmarked₂ hsplit₂ hpart₂ he₂ hrun₁
        (hmarks₁ harmed₂))
  | broken htext₁ harmed₁ hended₁ hrun₁ hmarks₁ hline₁ hunmarked₁ hsplit₁ hpart₁ he₁ =>
    cases h₂ with
    | short _ honce₂ => exact absurd ⟨_, htext₁.symm⟩ honce₂
    | closed htext₂ hrun₂ hmarks₂ =>
      obtain ⟨-, htext⟩ := List.cons.inj (List.cons.inj (htext₁.symm.trans htext₂)).2
      exact absurd htext (not_closed_of_broken hended₁ hrun₁ hline₁ hunmarked₁ hsplit₁ hpart₁ he₁ hrun₂
        (hmarks₂ harmed₁))
    | broken htext₂ _ hended₂ _ hmarks₂ hline₂ hunmarked₂ =>
      obtain ⟨-, htext⟩ := List.cons.inj (List.cons.inj (htext₁.symm.trans htext₂)).2
      rw [broken_unique hended₁ hended₂ hmarks₁ hmarks₂ hline₁ hline₂ hunmarked₁ hunmarked₂ htext]
      exact ⟨rfl, rfl⟩

theorem afterShort_quote {stopped : List Char} {later : Bool} :
    afterShort s q stopped (q.char :: rest) later =
      (.literal (q.char :: (stopped ++ [q.char])), { s with
        line := s.line + (q.char :: (stopped ++ [q.char])).count '\n', start := false,
        armed := s.armed && decide ('\n' ∉ q.char :: (stopped ++ [q.char])) }) :=
  if_pos rfl

theorem afterShort_later {stopped tail : List Char} (htail : tail.head? ≠ some q.char) :
    afterShort s q stopped tail true =
      (.other (q.char :: (stopped ++ tail.take 1)), { s with
        line := s.line + (q.char :: (stopped ++ tail.take 1)).count '\n', start := s.depth = 0,
        armed := true }) :=
  (if_neg htail).trans (if_pos rfl)

theorem afterShort_first {stopped tail : List Char} (htail : tail.head? ≠ some q.char) :
    afterShort s q stopped tail false = (.other [q.char], { s with start := false }) :=
  (if_neg htail).trans (if_neg Bool.false_ne_true)

theorem standsAtQuote_of_literal {text tail : List Char} (h : IsLiteral s.armed text rest)
    (heq : text ++ rest = q.char :: tail) : StandsAtQuote s q tail (.literal text) { s with
      line := s.line + text.count '\n', start := false, armed := s.armed && decide ('\n' ∉ text) } := by
  cases h with
  | short honce hrun =>
    obtain ⟨hchar, htail⟩ := List.cons.inj (List.cons_append ▸ heq)
    obtain rfl := Quote.char_injective hchar.symm
    rw [List.append_assoc] at htail
    subst htail
    have hshort := StandsAtQuote.short (s := s) rfl honce hrun (.inr (.inr (.inl rfl)))
    rwa [afterShort_quote] at hshort
  | long hrun hmarks =>
    obtain ⟨hchar, htail⟩ := List.cons.inj (List.cons_append ▸ heq)
    obtain rfl := Quote.char_injective hchar.symm
    exact .closed htail.symm hrun hmarks

theorem standsAtQuote_of_stray {tail : List Char} (h : IsStray q tail) :
    StandsAtQuote s q tail (.other [q.char]) { s with start := false } := by
  obtain ⟨hback, hnew, -⟩ := q.char_ne
  obtain ⟨honce, run, tail, rfl, hrun, hstop⟩ := h
  have hhead : tail.head? ≠ some q.char := by
    rcases hstop with rfl | rfl | hstop
    · exact fun hquote => by cases hquote
    · exact fun hquote => hback (Option.some.inj hquote).symm
    · exact fun hquote => hnew (Option.some.inj (hquote.symm.trans hstop))
  have hshort := StandsAtQuote.short (s := s) rfl honce hrun (by
    refine hstop.imp_right (.imp_right fun hnext => .inr ⟨hnext, fun hlater => ?_⟩)
    cases hlater)
  rwa [afterShort_first hhead] at hshort

theorem standsAtQuote_of_broken {text tail : List Char} (h : IsBroken s.armed text rest)
    (heq : text ++ rest = q.char :: tail) : StandsAtQuote s q tail (.other text) { s with
      line := s.line + text.count '\n', start := s.depth = 0, armed := true } := by
  cases h with
  | short honce hended hrun hline hunmarked hsplit hpart he =>
    obtain ⟨hchar, htail⟩ := List.cons.inj (List.cons_append ▸ heq)
    obtain rfl := Quote.char_injective hchar.symm
    have honce' : ¬ [q.char, q.char] <+: tail := fun hquotes => by
      rw [← htail, List.append_assoc] at hquotes
      exact honce (quotes_of_append (List.mem_of_getLast? hended) hquotes)
    obtain ⟨stopped, tail', hstopped, hrun', hstop, hhead, htext⟩ :=
      exists_stop_of_broken hended hrun hline hunmarked hsplit hpart he
    have hshort := StandsAtQuote.short (s := s) (htail.symm.trans hstopped) honce' hrun' hstop
    rwa [afterShort_later hhead, ← htext] at hshort
  | long harmed hended hrun hmarks hline hunmarked hsplit hpart he =>
    obtain ⟨hchar, htail⟩ := List.cons.inj (List.cons_append ▸ heq)
    obtain rfl := Quote.char_injective hchar.symm
    exact .broken htail.symm harmed hended hrun hmarks hline hunmarked hsplit hpart he

theorem Stands.atQuote {tail : List Char} (h : Stands s p rest s')
    (heq : p.chars ++ rest = q.char :: tail) : StandsAtQuote s q tail p s' := by
  have hhead (c : Char) (hc : c ≠ q.char) {text : List Char} : c :: text ≠ q.char :: tail :=
    fun heq => hc (List.cons.inj heq).1
  obtain ⟨hback, hnew, hreturn, hhash⟩ := q.char_ne
  cases h with
  | blank _ hc =>
    refine absurd heq (hhead _ fun h => ?_)
    subst h
    exact absurd hc q.char_notMem_blanks
  | emptyLine => exact absurd heq (hhead _ hreturn.symm)
  | lineEnd => exact absurd heq (hhead _ hnew.symm)
  | lone | comment => exact absurd heq (hhead _ hhash.symm)
  | joined => exact absurd heq (hhead _ hback.symm)
  | code _ _ hquote =>
    refine absurd heq (hhead _ fun h => ?_)
    rw [h, quote?_char] at hquote
    cases hquote
  | literal h => exact standsAtQuote_of_literal h heq
  | stray h =>
    obtain ⟨hchar, rfl⟩ := List.cons.inj heq
    obtain rfl := Quote.char_injective hchar.symm
    exact standsAtQuote_of_stray h
  | broken h => exact standsAtQuote_of_broken h heq

/-! ### Where no quote stands -/

theorem takeWhile_append_eq {p : Char → Bool} (hrun : ∀ d ∈ run, p d = true)
    (hrest : ∀ d ∈ rest.head?, p d = false) : (run ++ rest).takeWhile p = run := by
  rw [List.takeWhile_append_of_pos hrun]
  cases rest with
  | nil => rw [List.takeWhile_nil, List.append_nil]
  | cons d rest =>
    rw [List.takeWhile_cons_of_neg (Bool.not_eq_true _ ▸ hrest d rfl), List.append_nil]

theorem rdropWhile_append_eq {p : Char → Bool} {ending : List Char}
    (hrun : ∀ d ∈ run.getLast?, p d = false) (hending : ∀ d ∈ ending, p d = true) :
    (run ++ ending).rdropWhile p = run := by
  induction ending using List.reverseRecOn with
  | nil =>
    rw [List.append_nil, List.rdropWhile_eq_self_iff]
    exact fun hne => Bool.not_eq_true _ ▸ hrun _ (List.getLast?_eq_some_getLast hne)
  | append_singleton ending d ih =>
    rw [← List.append_assoc, List.rdropWhile_concat_pos _ _ _ (hending d (by simp))]
    exact ih fun d hd => hending d (List.mem_append_left _ hd)

/-- The piece at a character that is no quote, and where the next one stands. -/
def unquoted (s : Spot) (c : Char) (rest : List Char) : Piece × Spot :=
  if c = '\n' then (.other ['\n'], { s with line := s.line + 1, start := s.depth = 0 })
  else if c = '#' then
    (.comment ⟨s.line, '#' ::
      if s.start then (rest.takeWhile (· != '\n')).rdropWhile (· == '\r')
      else rest.takeWhile fun d => d != '\n' && d != '\r'⟩, s)
  else if s.start ∧ c ∈ [' ', '\t', '\x0c'] then (.other [c], s)
  else if s.start ∧ c = '\r' then (.other ('\r' :: rest.takeWhile (· != '\n')), s)
  else if c = '\\' ∧ ['\n'] <+: rest then
    (.other ['\\', '\n'], { s with line := s.line + 1, start := false })
  else if c = '\\' ∧ ['\r', '\n'] <+: rest then
    (.other ['\\', '\r', '\n'], { s with line := s.line + 1, start := false })
  else (.other [c], { s with depth := s.depth + bracketChange c, start := false })

/-- Where no quote stands, there is one piece at most that can. -/
theorem Stands.eq_unquoted {tail : List Char} (h : Stands s p rest s') (hquote : quote? c = none)
    (heq : p.chars ++ rest = c :: tail) : (p, s') = unquoted s c tail := by
  have hchar {q : Quote} {text : List Char} (heq : q.char :: text = c :: tail) : False := by
    rw [← (List.cons.inj heq).1, quote?_char] at hquote
    cases hquote
  cases h with
  | @blank c _ hstart hc =>
    obtain ⟨rfl, rfl⟩ := List.cons.inj heq
    have hne : c ≠ '\n' ∧ c ≠ '#' := by
      constructor <;> rintro rfl <;> exact absurd hc (by decide)
    rw [unquoted, if_neg hne.1, if_neg hne.2, if_pos ⟨hstart, hc⟩]
  | @emptyLine skipped rest hstart hskipped hrest =>
    obtain ⟨rfl, rfl⟩ := List.cons.inj heq
    have hline : (skipped ++ rest).takeWhile (· != '\n') = skipped :=
      takeWhile_append_eq (fun d hd => bne_iff_ne.mpr (ne_of_mem_of_not_mem hd hskipped))
        (fun d hd => by simpa using hrest d hd)
    have hblank : ¬ (s.start = true ∧ '\r' ∈ [' ', '\t', '\x0c']) := fun h => absurd h.2 (by decide)
    rw [unquoted, if_neg (by decide), if_neg (by decide), if_neg hblank, if_pos ⟨hstart, rfl⟩]
    exact congrArg (fun text => (Piece.other ('\r' :: text), s)) hline.symm
  | lineEnd =>
    obtain ⟨rfl, rfl⟩ := List.cons.inj heq
    exact (if_pos rfl).symm
  | @lone body rest hstart hbody hlast hrest =>
    obtain ⟨rfl, rfl⟩ := List.cons.inj heq
    have hline : ((body ++ rest).takeWhile (· != '\n')).rdropWhile (· == '\r') = body := by
      rw [← List.takeWhile_append_dropWhile (p := (· == '\r')) (l := rest), ← List.append_assoc,
        takeWhile_append_eq, rdropWhile_append_eq]
      · exact fun d hd => beq_eq_false_iff_ne.mpr fun hreturn => hlast (hreturn ▸ hd)
      · exact fun d hd => List.mem_takeWhile_imp (p := (· == '\r')) hd
      · intro d hd
        rcases List.mem_append.mp hd with hd | hd
        · exact bne_iff_ne.mpr (ne_of_mem_of_not_mem hd hbody)
        · have hreturn := List.mem_takeWhile_imp hd
          rw [beq_iff_eq.mp hreturn]
          rfl
      · exact fun d hd => by simpa using hrest d hd
    rw [unquoted, if_neg (by decide), if_pos rfl, if_pos hstart]
    exact congrArg (fun text => (Piece.comment ⟨s.line, '#' :: text⟩, s)) hline.symm
  | @comment body rest hstart hbody hrest =>
    obtain ⟨rfl, rfl⟩ := List.cons.inj heq
    have hline : (body ++ rest).takeWhile (fun d => d != '\n' && d != '\r') = body := by
      refine takeWhile_append_eq (fun d hd => ?_) (fun d hd => ?_)
      · simpa using ⟨fun h => hbody.1 (h ▸ hd), fun h => hbody.2 (h ▸ hd)⟩
      · rcases hrest d hd with rfl | rfl <;> rfl
    rw [unquoted, if_neg (by decide), if_pos rfl, if_neg (Bool.eq_false_iff.mp hstart)]
    exact congrArg (fun text => (Piece.comment ⟨s.line, '#' :: text⟩, s)) hline.symm
  | @joined e rest he =>
    obtain ⟨rfl, rfl⟩ := List.cons.inj heq
    have hblank : ¬ (s.start = true ∧ '\\' ∈ [' ', '\t', '\x0c']) := fun h => absurd h.2 (by decide)
    have hreturn : ¬ (s.start = true ∧ '\\' = '\r') := fun h => absurd h.2 (by decide)
    rw [unquoted, if_neg (by decide), if_neg (by decide), if_neg hblank, if_neg hreturn]
    rcases he with rfl | rfl
    · exact (if_pos ⟨rfl, rest, rfl⟩).symm
    · have hnot : ¬ ('\\' = '\\' ∧ ['\n'] <+: ['\r', '\n'] ++ rest) := fun h =>
        absurd (List.cons_prefix_cons.mp h.2).1 (by decide)
      exact ((if_neg hnot).trans (if_pos ⟨rfl, rest, rfl⟩)).symm
  | @code c _ hnew hc _ hstart hback =>
    obtain ⟨rfl, rfl⟩ := List.cons.inj heq
    have hblank : ¬ (s.start = true ∧ c ∈ [' ', '\t', '\x0c']) := fun h =>
      hstart h.1 (List.mem_append_left ['\r'] h.2)
    have hreturn : ¬ (s.start = true ∧ c = '\r') := fun h => hstart h.1 (by rw [h.2]; decide)
    rw [unquoted, if_neg hnew, if_neg hc, if_neg hblank, if_neg hreturn,
      if_neg fun h => (hback h.1).1 h.2, if_neg fun h => (hback h.1).2 h.2]
  | literal h => cases h <;> exact (hchar heq).elim
  | stray => exact (hchar heq).elim
  | broken h => cases h <;> exact (hchar heq).elim

/-- There is one piece at most that can stand at a spot before a text. -/
theorem Stands.unique (h₁ : Stands s p₁ rest₁ s₁) (h₂ : Stands s p₂ rest₂ s₂)
    (heq : p₁.chars ++ rest₁ = p₂.chars ++ rest₂) : p₁ = p₂ ∧ s₁ = s₂ := by
  obtain ⟨c, tail, hsplit⟩ := List.exists_cons_of_ne_nil h₁.ne_nil
  have heq₁ : p₁.chars ++ rest₁ = c :: (tail ++ rest₁) := by rw [hsplit, List.cons_append]
  have heq₂ := heq.symm.trans heq₁
  cases hquote : quote? c with
  | none =>
    exact Prod.ext_iff.mp ((h₁.eq_unquoted hquote heq₁).trans (h₂.eq_unquoted hquote heq₂).symm)
  | some q =>
    obtain rfl := quote?_eq_some hquote
    exact (h₁.atQuote heq₁).unique (h₂.atQuote heq₂)

theorem Cut.unique {text₁ text₂ : List Char} {ps₁ ps₂ : List Piece} (h₁ : Cut s text₁ ps₁)
    (h₂ : Cut s text₂ ps₂) (heq : text₁ = text₂) : ps₁ = ps₂ := by
  induction h₁ generalizing text₂ ps₂ with
  | nil => exact (h₂.eq_nil heq.symm).symm
  | cons hp₁ h₁ ih =>
    cases h₂ with
    | nil => exact absurd (List.append_eq_nil_iff.mp heq).1 hp₁.ne_nil
    | cons hp₂ h₂ =>
      obtain ⟨rfl, rfl⟩ := hp₁.unique hp₂ heq
      rw [ih h₂ (List.append_cancel_left heq)]

end Ways

end SourceConventions.Syntax.Comment
