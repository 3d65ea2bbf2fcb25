import Mathlib.Data.List.Basic
import Mathlib.Data.List.Forall2
import SourceConventions.Proofs.Glob.Sets

/-!
# What a glob matches

A glob is read from the left, one form after the other: a run, any character, a set that is closed,
a bracket that is not, a plain character. A text matches if it falls into parts, one for each form.
What is put behind a glob changes nothing about how the glob itself is read, as long as it closes
no bracket: the text then falls into a part for the glob and a part for what is behind.
-/

namespace SourceConventions

namespace Glob

/-! ### Matching of pieces -/

/-- What text one piece may stand for. -/
def Piece.Spans : Piece → List Char → Prop
  | .run, _ => True
  | p, cs => ∃ c, cs = [c] ∧ p.accepts c = true

/-- A text fits pieces if it falls into parts that the pieces stand for. -/
def Fits : List Piece → List Char → Prop
  | [], cs => cs = []
  | p :: ps, cs => ∃ part rest, cs = part ++ rest ∧ p.Spans part ∧ Fits ps rest

theorem spans_iff {p : Piece} (hp : p ≠ .run) {cs : List Char} :
    p.Spans cs ↔ ∃ c, cs = [c] ∧ p.accepts c = true := by
  cases p with
  | run => exact absurd rfl hp
  | char d => rfl
  | set negated ranges => rfl

section Fits

variable {p : Piece} {ps qs : List Piece} {c : Char} {cs : List Char}

theorem fits_append_iff :
    Fits (ps ++ qs) cs ↔ ∃ front back, cs = front ++ back ∧ Fits ps front ∧ Fits qs back := by
  induction ps generalizing cs with
  | nil => simp [Fits]
  | cons p ps ih =>
    simp only [List.cons_append, Fits, ih]
    constructor
    · rintro ⟨part, rest, rfl, hpart, front, back, rfl, hfront, hback⟩
      exact ⟨part ++ front, back, by simp, ⟨part, front, rfl, hpart, hfront⟩, hback⟩
    · rintro ⟨_, back, rfl, ⟨part, front, rfl, hpart, hfront⟩, hback⟩
      exact ⟨part, front ++ back, by simp, hpart, front, back, rfl, hfront, hback⟩

theorem fits_run_nil : Fits (.run :: ps) [] ↔ Fits ps [] := by
  simp [Fits, Piece.Spans]

theorem fits_run_cons : Fits (.run :: ps) (c :: cs) ↔ Fits ps (c :: cs) ∨ Fits (.run :: ps) cs := by
  constructor
  · rintro ⟨part, rest, hcs, -, hrest⟩
    cases part with
    | nil => exact .inl (hcs ▸ hrest)
    | cons d part =>
      obtain ⟨rfl, rfl⟩ := List.cons.inj hcs
      exact .inr ⟨part, rest, rfl, trivial, hrest⟩
  · rintro (h | ⟨part, rest, rfl, -, hrest⟩)
    · exact ⟨[], c :: cs, rfl, trivial, h⟩
    · exact ⟨c :: part, rest, rfl, trivial, hrest⟩

theorem fits_one_iff (hp : p ≠ .run) :
    Fits (p :: ps) cs ↔ ∃ c rest, cs = c :: rest ∧ p.accepts c = true ∧ Fits ps rest := by
  constructor
  · rintro ⟨part, rest, rfl, hpart, hrest⟩
    obtain ⟨c, rfl, hc⟩ := (spans_iff hp).mp hpart
    exact ⟨c, rest, rfl, hc, hrest⟩
  · rintro ⟨c, rest, rfl, hc, hrest⟩
    exact ⟨[c], rest, rfl, (spans_iff hp).mpr ⟨c, rfl, hc⟩, hrest⟩

theorem fits_one_nil (hp : p ≠ .run) : ¬ Fits (p :: ps) [] := by
  simp [fits_one_iff hp]

theorem fits_one_cons (hp : p ≠ .run) :
    Fits (p :: ps) (c :: cs) ↔ p.accepts c = true ∧ Fits ps cs := by
  simp [fits_one_iff hp]

end Fits

/-- The answers for a text: one for each of its tails. -/
abbrev Answers (ps : List Piece) (bs : List Bool) (cs : List Char) : Prop :=
  List.Forall₂ (fun b t => b = true ↔ Fits ps t) bs cs.tails

theorem Answers.exists_cons {ps : List Piece} {bs : List Bool} {cs : List Char}
    (h : Answers ps bs cs) : ∃ b later, bs = b :: later ∧ (b = true ↔ Fits ps cs) := by
  cases cs <;>
  · obtain ⟨b, later, hb, -, rfl⟩ := List.forall₂_cons_right_iff.mp h
    exact ⟨b, later, rfl, hb⟩

theorem answers_extend {p : Piece} {ps : List Piece} {bs : List Bool} {cs : List Char}
    (h : Answers ps bs cs) : Answers (p :: ps) (extend p cs bs) cs := by
  induction cs generalizing bs with
  | nil =>
    obtain ⟨b, bs, hb, hbs, rfl⟩ := List.forall₂_cons_right_iff.mp h
    obtain rfl := List.forall₂_nil_right_iff.mp hbs
    cases p with
    | run => exact .cons (hb.trans fits_run_nil.symm) .nil
    | char d => exact .cons (by simp [fits_one_nil]) .nil
    | set negated ranges => exact .cons (by simp [fits_one_nil]) .nil
  | cons c cs ih =>
    obtain ⟨b, bs, hb, hbs, rfl⟩ := List.forall₂_cons_right_iff.mp h
    have hlater := ih hbs
    obtain ⟨b', others, rfl, hb'⟩ := Answers.exists_cons hbs
    obtain ⟨next, later, hext, hnext⟩ := hlater.exists_cons
    simp only [extend, hext]
    refine .cons ?_ (hext ▸ hlater)
    cases p with
    | run => simp [fits_run_cons, hb, hnext]
    | char d => simp [fits_one_cons, hb']
    | set negated ranges => simp [fits_one_cons, hb']

theorem answers_correct (ps : List Piece) (cs : List Char) : Answers ps (answers ps cs) cs := by
  induction ps with
  | nil =>
    induction cs with
    | nil => exact .cons (by simp [Fits]) .nil
    | cons c cs ih => exact .cons (by simp [Fits]) ih
  | cons p ps ih => exact answers_extend ih

theorem matchesPieces_iff {ps : List Piece} {cs : List Char} :
    matchesPieces ps cs = true ↔ Fits ps cs := by
  obtain ⟨b, later, hbs, hb⟩ := (answers_correct ps cs).exists_cons
  rw [matchesPieces, hbs, List.headD_cons, hb]

/-! ### Closed sets -/

/-- What may stand between the brackets of a set: a mark or none, then a first character, which
may be a closing bracket, then others, which may not. -/
inductive IsSetBody : List Char → Prop
  | negated (first : Char) {tail : List Char} (htail : ']' ∉ tail) :
      IsSetBody ('!' :: first :: tail)
  | plain {first : Char} {tail : List Char} (hfirst : first ≠ '!') (htail : ']' ∉ tail) :
      IsSetBody (first :: tail)

/-- A beginning with what follows it up to a closing bracket, and what is behind that. -/
def upToBracket (front cs : List Char) : Option (List Char × List Char) :=
  match cs.dropWhile (· != ']') with
  | [] => none
  | _ :: rest => some (front ++ cs.takeWhile (· != ']'), rest)

theorem upToBracket_cons {c : Char} (hc : c ≠ ']') (front cs : List Char) :
    upToBracket front (c :: cs) = upToBracket (front ++ [c]) cs := by
  simp [upToBracket, hc]

theorem upToBracket_bracket (front cs : List Char) :
    upToBracket front (']' :: cs) = some (front, cs) := by
  simp [upToBracket]

theorem upToBracket_eq_some_iff {front cs body rest : List Char} :
    upToBracket front cs = some (body, rest) ↔
      ∃ tail, ']' ∉ tail ∧ body = front ++ tail ∧ cs = tail ++ ']' :: rest := by
  constructor
  · intro h
    induction cs generalizing front with
    | nil => simp [upToBracket] at h
    | cons c cs ih =>
      by_cases hc : c = ']'
      · subst hc
        rw [upToBracket_bracket] at h
        cases h
        exact ⟨[], by simp⟩
      · rw [upToBracket_cons hc] at h
        obtain ⟨tail, htail, rfl, rfl⟩ := ih h
        exact ⟨c :: tail, by simp [htail, Ne.symm hc], by simp, rfl⟩
  · rintro ⟨tail, htail, rfl, rfl⟩
    induction tail generalizing front with
    | nil => simp [upToBracket_bracket]
    | cons c tail ih =>
      obtain ⟨hc, htail⟩ := List.ne_and_not_mem_of_not_mem_cons htail
      rw [List.cons_append, upToBracket_cons hc.symm, ih htail, List.append_assoc,
        List.singleton_append]

theorem setBody_mark (first : Char) (cs : List Char) :
    setBody ('!' :: first :: cs) = upToBracket ['!', first] cs := by
  by_cases hfirst : first = ']' <;> cases hcs : cs.dropWhile (· != ']') <;>
    simp [setBody, upToBracket, hfirst, hcs]

theorem setBody_of_ne {first : Char} (hfirst : first ≠ '!') (cs : List Char) :
    setBody (first :: cs) = upToBracket [first] cs := by
  by_cases hbracket : first = ']' <;> cases hcs : cs.dropWhile (· != ']') <;>
    simp [setBody, upToBracket, hfirst, hbracket, hcs]

/-- A set is what closes first. -/
theorem setBody_eq_some_iff {cs body rest : List Char} :
    setBody cs = some (body, rest) ↔ IsSetBody body ∧ cs = body ++ ']' :: rest := by
  constructor
  · intro h
    cases cs with
    | nil => cases h
    | cons first cs =>
      by_cases hfirst : first = '!'
      · subst hfirst
        cases cs with
        | nil => cases h
        | cons first cs =>
          rw [setBody_mark, upToBracket_eq_some_iff] at h
          obtain ⟨tail, htail, rfl, rfl⟩ := h
          exact ⟨.negated first htail, rfl⟩
      · rw [setBody_of_ne hfirst, upToBracket_eq_some_iff] at h
        obtain ⟨tail, htail, rfl, rfl⟩ := h
        exact ⟨.plain hfirst htail, rfl⟩
  · rintro ⟨hbody, rfl⟩
    cases hbody with
    | negated first htail =>
      exact (setBody_mark first _).trans (upToBracket_eq_some_iff.mpr ⟨_, htail, rfl, rfl⟩)
    | plain hfirst htail =>
      exact (setBody_of_ne hfirst _).trans (upToBracket_eq_some_iff.mpr ⟨_, htail, rfl, rfl⟩)

theorem setBody_eq_none_iff {cs : List Char} :
    setBody cs = none ↔ ∀ body rest, IsSetBody body → cs ≠ body ++ ']' :: rest := by
  simp [Option.eq_none_iff_forall_ne_some, setBody_eq_some_iff]

theorem setBody_append_eq_none {cs ext : List Char} (h : setBody cs = none) (hext : ']' ∉ ext) :
    setBody (cs ++ ext) = none := by
  rw [setBody_eq_none_iff] at h ⊢
  intro body rest hbody hcs
  obtain ⟨later, rfl, rfl⟩ | ⟨later, rfl, hlater⟩ := List.append_eq_append_iff.mp hcs
  · exact hext (List.mem_append_right later List.mem_cons_self)
  · cases later with
    | nil =>
      rw [List.nil_append] at hlater
      exact hext (hlater ▸ List.mem_cons_self)
    | cons c later =>
      obtain ⟨rfl, -⟩ := List.cons.inj hlater
      exact h body later hbody rfl

/-! ### Reading a glob -/

theorem length_le_of_setBody {cs body rest : List Char} (h : setBody cs = some (body, rest)) :
    rest.length ≤ cs.length := by
  obtain ⟨-, rfl⟩ := setBody_eq_some_iff.mp h
  simp
  omega

theorem piecesOf_eq_of_le {m n : Nat} {cs : List Char} (hm : cs.length ≤ m) (hn : cs.length ≤ n) :
    piecesOf m cs = piecesOf n cs := by
  induction m generalizing n cs with
  | zero =>
    obtain rfl := List.eq_nil_of_length_eq_zero (Nat.le_zero.mp hm)
    cases n <;> rfl
  | succ m ih =>
    cases n with
    | zero =>
      obtain rfl := List.eq_nil_of_length_eq_zero (Nat.le_zero.mp hn)
      rfl
    | succ n =>
      unfold piecesOf
      split
      · rfl
      · rw [ih (Nat.le_of_succ_le_succ hm) (Nat.le_of_succ_le_succ hn)]
      · rw [ih (Nat.le_of_succ_le_succ hm) (Nat.le_of_succ_le_succ hn)]
      · split
        · rw [ih (Nat.le_of_succ_le_succ hm) (Nat.le_of_succ_le_succ hn)]
        next rest' h =>
          have hle := length_le_of_setBody h
          rw [ih (Nat.le_trans hle (Nat.le_of_succ_le_succ hm))
            (Nat.le_trans hle (Nat.le_of_succ_le_succ hn))]
      · rw [ih (Nat.le_of_succ_le_succ hm) (Nat.le_of_succ_le_succ hn)]

theorem pieces_star (rest : List Char) : pieces ('*' :: rest) = .run :: pieces rest := rfl

theorem pieces_any (rest : List Char) : pieces ('?' :: rest) = .any :: pieces rest := rfl

theorem pieces_set {body : List Char} (hbody : IsSetBody body) (rest : List Char) :
    pieces ('[' :: (body ++ ']' :: rest)) = setPiece body :: pieces rest := by
  have h : setBody (body ++ ']' :: rest) = some (body, rest) :=
    setBody_eq_some_iff.mpr ⟨hbody, rfl⟩
  simp only [pieces, List.length_cons, piecesOf, h]
  rw [piecesOf_eq_of_le (length_le_of_setBody h) (Nat.le_refl _)]

theorem pieces_bracket {rest : List Char} (hrest : setBody rest = none) :
    pieces ('[' :: rest) = .char '[' :: pieces rest := by
  simp only [pieces, List.length_cons, piecesOf, hrest]

theorem pieces_char {c : Char} (hc : c ∉ ['*', '?', '[']) (rest : List Char) :
    pieces (c :: rest) = .char c :: pieces rest := by
  rw [pieces, List.length_cons, piecesOf] <;> simp_all [pieces]

theorem setPiece_ne_run (body : List Char) : setPiece body ≠ .run := by
  unfold setPiece
  split <;> exact Piece.noConfusion

/-- A glob is read one form after the other. -/
@[elab_as_elim]
theorem reading_induction {motive : List Char → Prop} (nil : motive [])
    (star : ∀ rest, motive rest → motive ('*' :: rest))
    (any : ∀ rest, motive rest → motive ('?' :: rest))
    (set : ∀ body rest, IsSetBody body → motive rest → motive ('[' :: (body ++ ']' :: rest)))
    (bracket : ∀ rest, setBody rest = none → motive rest → motive ('[' :: rest))
    (char : ∀ c rest, c ∉ ['*', '?', '['] → motive rest → motive (c :: rest))
    (glob : List Char) : motive glob := by
  induction hlength : glob.length using Nat.strongRecOn generalizing glob with
  | ind n ih =>
    have hshorter : ∀ rest : List Char, rest.length < glob.length → motive rest :=
      fun rest hrest => ih rest.length (hlength ▸ hrest) rest rfl
    cases glob with
    | nil => exact nil
    | cons c rest =>
      have hrest := hshorter rest (Nat.lt_succ_self _)
      by_cases hc : c ∈ ['*', '?', '[']
      · simp only [List.mem_cons, List.not_mem_nil, or_false] at hc
        obtain rfl | rfl | rfl := hc
        · exact star rest hrest
        · exact any rest hrest
        · cases hset : setBody rest with
          | none => exact bracket rest hset hrest
          | some found =>
            obtain ⟨body, after⟩ := found
            have hafter := hshorter after (Nat.lt_succ_of_le (length_le_of_setBody hset))
            obtain ⟨hbody, rfl⟩ := setBody_eq_some_iff.mp hset
            exact set body after hbody hafter
      · exact char c rest hc hrest

theorem pieces_append {ext : List Char} (hext : ']' ∉ ext) (glob : List Char) :
    pieces (glob ++ ext) = pieces glob ++ pieces ext := by
  induction glob using reading_induction with
  | nil => rfl
  | star rest ih => rw [List.cons_append, pieces_star, pieces_star, ih, List.cons_append]
  | any rest ih => rw [List.cons_append, pieces_any, pieces_any, ih, List.cons_append]
  | set body rest hbody ih =>
    rw [List.cons_append, List.append_assoc, List.cons_append, pieces_set hbody,
      pieces_set hbody, ih, List.cons_append]
  | bracket rest hopen ih =>
    rw [List.cons_append, pieces_bracket (setBody_append_eq_none hopen hext),
      pieces_bracket hopen, ih, List.cons_append]
  | char c rest hc ih =>
    rw [List.cons_append, pieces_char hc, pieces_char hc, ih, List.cons_append]

/-! ### Matching of globs -/

/-- What texts a glob stands for, with one rule for each form. -/
inductive Matches : List Char → List Char → Prop
  | nil : Matches [] []
  | star (skipped : List Char) {rest cs : List Char} (h : Matches rest cs) :
      Matches ('*' :: rest) (skipped ++ cs)
  | any (c : Char) {rest cs : List Char} (h : Matches rest cs) : Matches ('?' :: rest) (c :: cs)
  | set {body : List Char} {c : Char} {rest cs : List Char} (hbody : IsSetBody body)
      (hc : (CharSet.ofBody body).Has c) (h : Matches rest cs) :
      Matches ('[' :: (body ++ ']' :: rest)) (c :: cs)
  | bracket {rest cs : List Char}
      (hopen : ∀ body after, IsSetBody body → rest ≠ body ++ ']' :: after)
      (h : Matches rest cs) : Matches ('[' :: rest) ('[' :: cs)
  | char {c : Char} {rest cs : List Char} (hc : c ∉ ['*', '?', '[']) (h : Matches rest cs) :
      Matches (c :: rest) (c :: cs)

theorem fits_pieces_iff {glob text : List Char} : Fits (pieces glob) text ↔ Matches glob text := by
  constructor
  · intro h
    induction glob using reading_induction generalizing text with
    | nil =>
      obtain rfl := h
      exact .nil
    | star rest ih =>
      obtain ⟨skipped, cs, rfl, -, hcs⟩ := h
      exact .star skipped (ih hcs)
    | any rest ih =>
      obtain ⟨c, cs, rfl, -, hcs⟩ := (fits_one_iff (by decide)).mp h
      exact .any c (ih hcs)
    | set body rest hbody ih =>
      rw [pieces_set hbody] at h
      obtain ⟨c, cs, rfl, hc, hcs⟩ := (fits_one_iff (setPiece_ne_run body)).mp h
      exact .set hbody (setPiece_accepts_iff.mp hc) (ih hcs)
    | bracket rest hopen ih =>
      rw [pieces_bracket hopen] at h
      obtain ⟨c, cs, rfl, hc, hcs⟩ := (fits_one_iff (by decide)).mp h
      obtain rfl : c = '[' := by simpa [Piece.accepts] using hc
      exact .bracket (setBody_eq_none_iff.mp hopen) (ih hcs)
    | char d rest hd ih =>
      rw [pieces_char hd] at h
      obtain ⟨c, cs, rfl, hc, hcs⟩ := (fits_one_iff (by simp)).mp h
      obtain rfl : c = d := by simpa [Piece.accepts] using hc
      exact .char hd (ih hcs)
  · intro h
    induction h with
    | nil => rfl
    | star skipped h ih => exact ⟨skipped, _, rfl, trivial, ih⟩
    | any c h ih => exact (fits_one_cons (by decide)).mpr ⟨rfl, ih⟩
    | set hbody hc h ih =>
      rw [pieces_set hbody]
      exact (fits_one_cons (setPiece_ne_run _)).mpr ⟨setPiece_accepts_iff.mpr hc, ih⟩
    | bracket hopen h ih =>
      rw [pieces_bracket (setBody_eq_none_iff.mpr hopen)]
      exact (fits_one_cons (by decide)).mpr ⟨rfl, ih⟩
    | char hc h ih =>
      rw [pieces_char hc]
      exact (fits_one_cons (by simp)).mpr ⟨by simp [Piece.accepts], ih⟩

theorem accepts_iff {glob text : List Char} : accepts glob text = true ↔ Matches glob text :=
  matchesPieces_iff.trans fits_pieces_iff

/-! ### Slashes behind a glob -/

theorem fits_plain_iff {cs text : List Char} : Fits (cs.map .char) text ↔ text = cs := by
  induction cs generalizing text with
  | nil => rfl
  | cons d cs ih =>
    rw [List.map_cons, fits_one_iff (by simp)]
    simp [Piece.accepts, ih]

theorem pieces_slashes (n : Nat) :
    pieces (List.replicate n '/') = (List.replicate n '/').map .char := by
  induction n with
  | zero => rfl
  | succ n ih =>
    rw [List.replicate_succ, pieces_char (by decide), ih, List.map_cons]

/-- Slashes behind a glob stand for themselves. -/
theorem matches_append_slashes_iff {glob text : List Char} {n : Nat} :
    Matches (glob ++ List.replicate n '/') text ↔
      ∃ front, text = front ++ List.replicate n '/' ∧ Matches glob front := by
  have hslashes : ']' ∉ List.replicate n '/' := by simp
  rw [← fits_pieces_iff, pieces_append hslashes, fits_append_iff, pieces_slashes]
  simp only [fits_plain_iff, fits_pieces_iff]
  constructor
  · rintro ⟨front, back, rfl, hfront, rfl⟩
    exact ⟨front, rfl, hfront⟩
  · rintro ⟨front, rfl, hfront⟩
    exact ⟨front, _, rfl, hfront, rfl⟩

/-- A glob with a slash and a run behind it stands for what is below a path that the glob stands
for. -/
theorem matches_append_slash_star_iff {glob text : List Char} :
    Matches (glob ++ ['/', '*']) text ↔
      ∃ front rest, text = front ++ '/' :: rest ∧ Matches glob front := by
  have hbelow : ∀ back, Fits (pieces ['/', '*']) back ↔ ∃ rest, back = '/' :: rest := by
    intro back
    have hpieces : pieces ['/', '*'] = [.char '/', .run] := by decide
    rw [hpieces, fits_one_iff (by decide)]
    simp [Piece.accepts, Fits, Piece.Spans]
  rw [← fits_pieces_iff, pieces_append (by decide), fits_append_iff]
  simp only [hbelow, fits_pieces_iff]
  constructor
  · rintro ⟨front, back, rfl, hfront, rest, rfl⟩
    exact ⟨front, rest, rfl, hfront⟩
  · rintro ⟨front, rest, rfl, hfront⟩
    exact ⟨front, _, rfl, hfront, rest, rfl⟩

end Glob

end SourceConventions
