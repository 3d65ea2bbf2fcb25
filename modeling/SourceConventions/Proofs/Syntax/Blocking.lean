import SourceConventions.Proofs.Comments.Lexed

/-!
# Tokens that open nothing

An indent opens no statement, nor does a type comment. A reading that has to start with one finds
nothing there, and remembers no more than that.
-/

namespace SourceConventions.Syntax

/-- Whether a token opens no statement. -/
def Token.opensNothing (t : Token) : Bool := t.kind == .indent || t.kind == .typeComment

namespace Reading

section Steps

variable {α β : Type} {s : Surroundings} {c d : Cursor} {p : Reading α} {f : α → Reading β}

theorem bind_of_found {a : α} (h : p s c = .found a d) : (p >>= f) s c = f a s d := by
  simp only [bind, h]

theorem bind_of_absent (h : p s c = .absent d) : (p >>= f) s c = .absent d := by
  simp only [bind, h]

theorem orElse_of_absent {q : Reading α} (h : p s c = .absent d) :
    (p <|> q) s c = q s { d with index := c.index } := by
  simp only [HOrElse.hOrElse, OrElse.orElse, Alternative.orElse, h]

theorem maybe_of_absent (h : p s c = .absent d) :
    maybe p s c = .found none { d with index := c.index } :=
  orElse_of_absent (bind_of_absent h)

theorem peek_of_token {t : Token} (h : s.tokens[c.index]? = some t) :
    peek s c = .found t { c with reach := max c.reach (c.index + 1) } := by
  rw [peek, h]

end Steps

/-- At a place nothing has been found so far, but possibly looked for. -/
def Unfound (i : Nat) (memory : Array (List Remembered)) : Prop :=
  ∀ m ∈ memory.getD i [], m.result.isNone = true

theorem Unfound.remember {i : Nat} {memory : Array (List Remembered)} (h : Unfound i memory)
    (r : Nonterminal) : Unfound i (memory.modify i (⟨r, none⟩ :: ·)) := by
  intro m hm
  rw [Array.getD_eq_getD_getElem?, Array.getElem?_modify, if_pos rfl] at hm
  cases hi : memory[i]? with
  | none => rw [hi] at hm; cases hm
  | some known =>
    rw [hi] at hm
    rcases List.mem_cons.mp hm with rfl | hm
    · rfl
    · exact h m (by rw [Array.getD_eq_getD_getElem?, hi]; exact hm)

theorem remembered?_of_isNone (r : Nonterminal) {l : List Remembered}
    (h : ∀ m ∈ l, m.result.isNone = true) : remembered? r l = none ∨ remembered? r l = some none := by
  induction l with
  | nil => exact .inl rfl
  | cons m rest ih =>
    obtain ⟨hm, hrest⟩ := List.forall_mem_cons.mp h
    rw [remembered?]
    split
    case isTrue hrule =>
      obtain ⟨rule, result⟩ := m
      subst hrule
      exact .inr (congrArg some (Option.isNone_iff_eq_none.mp hm))
    case isFalse => exact ih hrest

/-- A reading finds nothing at a place where nothing has been found so far. -/
def Blocked {α : Type} (s : Surroundings) (i : Nat) (p : Reading α) : Prop :=
  ∀ c : Cursor, c.index = i → Unfound i c.memory → ∃ d, p s c = .absent d ∧ Unfound i d.memory

namespace Blocked

variable {α β : Type} {s : Surroundings} {i : Nat} {p q : Reading α}

theorem failure : Blocked s i (failure : Reading α) := fun c _ h => ⟨c, rfl, h⟩

theorem bind (h : Blocked s i p) (f : α → Reading β) : Blocked s i (p >>= f) := by
  intro c hc hmemory
  obtain ⟨d, hd, hmemory⟩ := h c hc hmemory
  exact ⟨d, bind_of_absent hd, hmemory⟩

theorem map (f : α → β) (h : Blocked s i p) : Blocked s i (f <$> p) := h.bind _

theorem orElse (hp : Blocked s i p) (hq : Blocked s i q) : Blocked s i (p <|> q) := by
  intro c hc hmemory
  obtain ⟨d, hd, hmemory⟩ := hp c hc hmemory
  obtain ⟨e, he, hmemory⟩ := hq { d with index := c.index } hc hmemory
  exact ⟨e, (orElse_of_absent hd).trans he, hmemory⟩

theorem commit {lead : Reading α} {rest : α → Reading β} {other : Reading β}
    (hlead : Blocked s i lead) (hother : Blocked s i other) :
    Blocked s i (commit lead rest other) := by
  intro c hc hmemory
  obtain ⟨d, hd, hmemory⟩ := hlead c hc hmemory
  obtain ⟨e, he, hmemory⟩ := hother { d with index := c.index } hc hmemory
  exact ⟨e, by rw [Reading.commit, hd]; exact he, hmemory⟩

theorem ahead (h : Blocked s i p) : Blocked s i (ahead p) := by
  intro c hc hmemory
  obtain ⟨d, hd, hmemory⟩ := h c hc hmemory
  exact ⟨d, by rw [Reading.ahead, hd], hmemory⟩

/-- What is sought only if it is there is passed over. -/
theorem maybe_bind (h : Blocked s i p) {f : Option α → Reading β} (hf : Blocked s i (f none)) :
    Blocked s i (maybe p >>= f) := by
  intro c hc hmemory
  obtain ⟨d, hd, hmemory⟩ := h c hc hmemory
  obtain ⟨e, he, hmemory⟩ := hf { d with index := c.index } hc hmemory
  exact ⟨e, (bind_of_found (maybe_of_absent hd)).trans he, hmemory⟩

theorem many1 (h : Blocked s i p) : Blocked s i (many1 p) := h.bind _

theorem sepBy1 {separator : Reading β} (h : Blocked s i p) : Blocked s i (sepBy1 p separator) :=
  h.bind _

end Blocked

end Reading

/-! ### Where nothing opens -/

/-- A token that opens nothing stands at a place, and nobody looks for what is wrong. -/
structure DeadEnd (s : Surroundings) (i : Nat) (t : Token) : Prop where
  there : s.tokens[i]? = some t
  opensNothing : t.opensNothing = true
  plain : s.diagnosing = false

namespace DeadEnd

open Reading

variable {α β : Type} {s : Surroundings} {i : Nat} {t : Token} (h : DeadEnd s i t)
include h

theorem peek_bind {f : Token → Reading β} (hf : Blocked s i (f t)) : Blocked s i (peek >>= f) := by
  intro c hc hmemory
  obtain ⟨d, hd, hmemory⟩ := hf { c with reach := max c.reach (c.index + 1) } hc hmemory
  exact ⟨d, (bind_of_found (peek_of_token (hc ▸ h.there))).trans hd, hmemory⟩

theorem here_bind {f : Position → Reading β} (hf : Blocked s i (f t.pos)) :
    Blocked s i (here >>= f) := by
  intro c hc hmemory
  obtain ⟨d, hd, hmemory⟩ := hf { c with reach := max c.reach (c.index + 1) } hc hmemory
  have hhere : here s c = .found t.pos { c with reach := max c.reach (c.index + 1) } :=
    bind_of_found (peek_of_token (hc ▸ h.there))
  exact ⟨d, (bind_of_found hhere).trans hd, hmemory⟩

theorem diagnose (p : Reading Unit) : Blocked s i (diagnose p : Reading α) := fun c _ hmemory =>
  ⟨c, by rw [Reading.diagnose, if_neg (Bool.eq_false_iff.mp h.plain)], hmemory⟩

theorem token {test : Token → Bool} (htest : test t = false) : Blocked s i (token test) := by
  refine h.peek_bind ?_
  rw [htest]
  exact .failure

theorem kind : t.kind = .indent ∨ t.kind = .typeComment := by
  simpa [Token.opensNothing] using h.opensNothing

theorem symbol (lexeme : String) : Blocked s i (symbol lexeme) := by
  refine h.token ?_
  rcases h.kind with hkind | hkind <;> rw [hkind] <;> rfl

theorem keyword (lexeme : String) : Blocked s i (keyword lexeme) := by
  refine h.token ?_
  rcases h.kind with hkind | hkind <;> rw [hkind] <;> rfl

theorem softKeyword (lexeme : String) : Blocked s i (softKeyword lexeme) := by
  refine h.token ?_
  rcases h.kind with hkind | hkind <;> rw [hkind] <;> rfl

theorem name : Blocked s i name := by
  refine h.token ?_
  rcases h.kind with hkind | hkind <;> rw [hkind] <;> rfl

theorem endMark : Blocked s i (ofKind .endMark) := by
  refine h.token ?_
  rcases h.kind with hkind | hkind <;> rw [hkind] <;> rfl

/-- A nonterminal that finds nothing is remembered as one that does not. -/
theorem remembering {r : Nonterminal} {p : Reading r.Value} (hp : Blocked s i p) :
    Blocked s i (remembering r p) := by
  refine h.peek_bind fun c hc hmemory => ?_
  rw [hc]
  dsimp only
  rcases remembered?_of_isNone r hmemory with hnone | hnone
  · rw [hnone]
    obtain ⟨d, hd, hmemory⟩ := hp c hc hmemory
    dsimp only
    rw [hd]
    exact ⟨_, rfl, hmemory.remember _⟩
  · rw [hnone]
    exact ⟨c, rfl, hmemory⟩

end DeadEnd

/-- The nonterminals that a simple statement may start with, itself among them. -/
def Nonterminal.isLead : Nonterminal → Bool
  | .simpleStatement | .expression | .starExpression | .disjunction | .conjunction | .inversion
  | .bitOr | .bitXor | .bitAnd | .shift | .sum | .term | .factor | .awaited | .primary
  | .starTarget | .starAtomTarget | .targetPrimary | .singleTarget => true
  | _ => false

namespace DeadEnd

open Reading

variable {α : Type} {s : Surroundings} {i : Nat} {t : Token} {g : Grammar} (h : DeadEnd s i t)
  (hg : ∀ r, Nonterminal.isLead r = true → Blocked s i (g r))
include h

/-! Expressions -/

theorem atom : Blocked s i (Grammar.atom g) := by
  refine h.peek_bind ?_
  rcases h.kind with hkind | hkind <;> rw [hkind] <;> exact .failure

theorem primary : Blocked s i (Grammar.primary g) := h.here_bind (h.atom.bind _)

theorem leftward (ops : List BinaryOperator) {operand : Reading Expr} (hp : Blocked s i operand) :
    Blocked s i (Grammar.leftward ops operand) := h.here_bind (hp.bind _)

theorem logical (op : LogicalOperator) {operand : Reading Expr} (hp : Blocked s i operand) :
    Blocked s i (Grammar.logical op operand) := h.here_bind (hp.bind _)

theorem oneOrTuple {item : Reading Expr} (hp : Blocked s i item) :
    Blocked s i (Grammar.oneOrTuple item) := h.here_bind (hp.bind _)

theorem yieldExpression : Blocked s i (Grammar.yieldExpression g) := (h.keyword "yield").bind _

theorem targetPrimary : Blocked s i (Grammar.targetPrimary g) :=
  h.here_bind ((h.atom.bind _).bind _)

theorem starAtom : Blocked s i (Grammar.starAtom g) :=
  (h.name.map _).orElse
    (((h.symbol "(").bind _).orElse (((h.symbol "(").bind _).orElse ((h.symbol "[").bind _)))

include hg

theorem awaited : Blocked s i (Grammar.awaited g) :=
  ((h.keyword "await").bind _).orElse (hg .primary rfl)

theorem power : Blocked s i (Grammar.power g) :=
  (h.here_bind ((hg .awaited rfl).bind _)).orElse (hg .awaited rfl)

theorem factor : Blocked s i (Grammar.factor g) :=
  have hsign (lexeme : String) (op : UnaryOperator) : Blocked s i (Grammar.signed g lexeme op) :=
    (h.symbol lexeme).bind _
  (hsign "+" .plus).orElse ((hsign "-" .minus).orElse ((hsign "~" .invert).orElse (h.power hg)))

theorem comparison : Blocked s i (Grammar.comparison g) := h.here_bind ((hg .bitOr rfl).bind _)

theorem inversion : Blocked s i (Grammar.inversion g) :=
  ((h.keyword "not").bind _).orElse (h.comparison hg)

theorem wholeExpression : Blocked s i (Grammar.wholeExpression g) :=
  (h.here_bind ((hg .disjunction rfl).bind _)).orElse
    ((hg .disjunction rfl).orElse ((h.keyword "lambda").bind _))

theorem expression : Blocked s i (Grammar.expression g) :=
  (h.diagnose _).orElse ((h.diagnose _).orElse (h.wholeExpression hg))

theorem starExpression : Blocked s i (Grammar.starExpression g) :=
  ((h.symbol "*").bind _).orElse (hg .expression rfl)

theorem starExpressions : Blocked s i (Grammar.starExpressions g) :=
  h.oneOrTuple (hg .starExpression rfl)

theorem yieldOrStar : Blocked s i (Grammar.yieldOrStar g) :=
  h.yieldExpression.orElse (h.starExpressions hg)

/-! Targets -/

theorem memberTarget : Blocked s i (Grammar.memberTarget g) :=
  h.here_bind (((hg .targetPrimary rfl).bind _).orElse ((hg .targetPrimary rfl).bind _))

theorem starAtomTarget : Blocked s i (Grammar.starAtomTarget g) :=
  ((h.memberTarget hg).map _).orElse h.starAtom

theorem starTarget : Blocked s i (Grammar.starTarget g) :=
  ((h.symbol "*").bind _).orElse (hg .starAtomTarget rfl)

theorem starTargets : Blocked s i (Grammar.starTargets g) :=
  ((hg .starTarget rfl).bind _).orElse (h.here_bind ((hg .starTarget rfl).sepBy1.bind _))

theorem singleTarget : Blocked s i (Grammar.singleTarget g) :=
  ((h.memberTarget hg).map _).orElse ((h.name.map _).orElse ((h.symbol "(").bind _))

/-! Statements -/

theorem assignment : Blocked s i (Grammar.assignment g) :=
  h.here_bind <|
    (h.name.bind _).orElse <|
    ((((h.symbol "(").bind _).orElse ((h.memberTarget hg).map _)).bind _).orElse <|
    (((h.starTargets hg).bind _).many1.bind _).orElse <|
    .commit ((hg .singleTarget rfl).bind _) (h.diagnose _)

omit hg in
theorem expressionStatement {e : Reading Expr} (he : Blocked s i e) :
    Blocked s i (Grammar.expressionStatement e) := h.here_bind (he.bind _)

/-- A simple statement starts with an expression, a target or a word of its own. -/
theorem simpleStatement : Blocked s i (Grammar.simpleStatement g) :=
  have hword (lexeme : String) {α : Type} (f : Token → Reading α) :
      Blocked s i (Reading.keyword lexeme >>= f) := (h.keyword lexeme).bind f
  (h.assignment hg).orElse <|
    (h.expressionStatement (h.starExpressions hg)).orElse <|
    (hword "return" _).orElse <|
    ((hword "import" _).orElse (hword "from" _)).orElse <|
    (hword "raise" _).orElse <|
    (hword "pass" _).orElse <|
    ((hword "del" _).orElse (h.diagnose _)).orElse <|
    (h.expressionStatement h.yieldExpression).orElse <|
    (hword "assert" _).orElse <|
    (hword "break" _).orElse <|
    (hword "continue" _).orElse <|
    (hword "global" _).orElse (hword "nonlocal" _)

omit h in
theorem statementLine : Blocked s i (Grammar.statementLine g) :=
  ((hg .simpleStatement rfl).bind _).orElse ((hg .simpleStatement rfl).sepBy1.bind _)

omit hg in
theorem opens (words : List String) (p : Reading Stmt) : Blocked s i (Grammar.opens words p) := by
  refine (Blocked.ahead (h.token ?_)).bind _
  rcases h.kind with hkind | hkind <;> rw [hkind] <;> rfl

omit hg in
theorem compoundStatement : Blocked s i (Grammar.compoundStatement g) :=
  (h.opens _ _).orElse <| (h.opens _ _).orElse <| (h.opens _ _).orElse <| (h.opens _ _).orElse <|
    (h.opens _ _).orElse <| (h.opens _ _).orElse <| (h.opens _ _).orElse <|
    ((h.softKeyword "match").bind _).orElse (h.diagnose _)

theorem statements : Blocked s i (Grammar.statements g) :=
  (Blocked.many1 ((h.compoundStatement.bind _).orElse (statementLine hg))).bind _

theorem moduleText : Blocked s i (Grammar.moduleText g) :=
  (h.statements hg).maybe_bind (h.endMark.bind _)

omit hg in
/-- What a simple statement may start with does not start with a token that opens nothing. -/
theorem rules (hg : ∀ r, Nonterminal.isLead r = true → Blocked s i (g r)) {r : Nonterminal}
    (hr : r.isLead = true) : Blocked s i (Grammar.rules g r) := by
  cases r with
  | simpleStatement => exact h.simpleStatement hg
  | expression => exact h.expression hg
  | starExpression => exact h.starExpression hg
  | disjunction => exact h.logical .or (hg .conjunction rfl)
  | conjunction => exact h.logical .and (hg .inversion rfl)
  | inversion => exact h.inversion hg
  | bitOr => exact h.leftward _ (hg .bitXor rfl)
  | bitXor => exact h.leftward _ (hg .bitAnd rfl)
  | bitAnd => exact h.leftward _ (hg .shift rfl)
  | shift => exact h.leftward _ (hg .sum rfl)
  | sum => exact h.leftward _ (hg .term rfl)
  | term => exact h.leftward _ (hg .factor rfl)
  | factor => exact h.factor hg
  | awaited => exact h.awaited hg
  | primary => exact h.primary
  | starTarget => exact h.starTarget hg
  | starAtomTarget => exact h.starAtomTarget hg
  | targetPrimary => exact h.targetPrimary
  | singleTarget => exact h.singleTarget hg
  | _ => cases hr

omit hg in
theorem nested (n : Nat) : ∀ r, Nonterminal.isLead r = true → Blocked s i (Grammar.nested n r) := by
  induction n with
  | zero => exact fun _ _ => .failure
  | succ n ih => exact fun r hr => h.remembering (h.rules ih hr)

end DeadEnd

/-- A text is no program if its tokens do not start with one that opens something. -/
theorem Surroundings.read_ne_ok {s : Surroundings} (n : Nat)
    (hfirst : ∀ t, s.tokens[0]? = some t → t.opensNothing = true) (tree : Stmt) :
    s.read (Grammar.moduleText (Grammar.nested n)) ≠ .ok tree := by
  intro hread
  obtain ⟨d, hfound⟩ := attempt_of_read hread
  cases hnone : s.tokens[0]? with
  | none =>
    obtain ⟨t, ht, -⟩ := endMark_of_moduleText hfound
    have hempty : s.tokens = #[] := Array.eq_empty_of_size_eq_zero (by simpa using hnone)
    have ht' : t ∈ s.tokens := ht
    rw [hempty] at ht'
    exact absurd ht' (Array.not_mem_empty t)
  | some t =>
    have hdead : DeadEnd { s with diagnosing := false } 0 t := ⟨hnone, hfirst t hnone, rfl⟩
    have hstart : Reading.Unfound 0 (Array.replicate (s.tokens.size + 1) []) := by
      simp [Reading.Unfound]
    obtain ⟨e, he, -⟩ := hdead.moduleText (hdead.nested n)
      ⟨0, 0, Array.replicate (s.tokens.size + 1) []⟩ rfl hstart
    cases hfound.symm.trans he

end SourceConventions.Syntax
