import SourceConventions.Proofs.Comments.Quoting
import SourceConventions.Syntax.Lexing

/-!
# What tokens step over

Every token but a text consists of characters that do not count for comments, brackets apart. A text
is stepped over from its opening quotes to its closing ones.
-/

namespace SourceConventions.Syntax

/-- The characters that count for comments. -/
def telling : List Char := ['\n', '#', '\'', '"', '(', '[', '\x7b', ')', ']', '\x7d']

theorem isPlain_of_notMem {c : Char} (h : c ∉ telling) : isPlain c = true := by
  simp only [telling, List.mem_cons, List.not_mem_nil, or_false, not_or] at h
  simp [isPlain, quote?, bracketChange, h]

/-- A test that no telling character passes. -/
theorem isPlain_of {p : Char → Bool} (hp : telling.any p = false) {c : Char} (h : p c = true) :
    isPlain c = true :=
  isPlain_of_notMem fun hmem => List.any_eq_false.mp hp c hmem h

/-- A text, and what is left of it behind characters that do not count. -/
def StepsOver (cs rest : List Char) : Prop :=
  ∃ part, cs = part ++ rest ∧ ∀ c ∈ part, isPlain c = true

namespace StepsOver

theorem refl (cs : List Char) : StepsOver cs cs := ⟨[], rfl, by simp⟩

theorem cons {c : Char} {cs rest : List Char} (hc : isPlain c = true) (h : StepsOver cs rest) :
    StepsOver (c :: cs) rest := by
  obtain ⟨part, rfl, hpart⟩ := h
  exact ⟨c :: part, rfl, List.forall_mem_cons.mpr ⟨hc, hpart⟩⟩

theorem trans {as bs cs : List Char} (h : StepsOver as bs) (h' : StepsOver bs cs) :
    StepsOver as cs := by
  obtain ⟨part, rfl, hpart⟩ := h
  obtain ⟨more, rfl, hmore⟩ := h'
  refine ⟨part ++ more, (List.append_assoc _ _ _).symm, ?_⟩
  exact List.forall_mem_append.mpr ⟨hpart, hmore⟩

theorem readFrom_eq {cs rest : List Char} (h : StepsOver cs rest) (n : Nat) :
    readFrom .code n cs = readFrom .code n rest := by
  obtain ⟨part, rfl, hpart⟩ := h
  exact readFrom_plain_append hpart n rest

/-- Characters that pass a test are stepped over. -/
theorem takeWhile {p : Char → Bool} (hp : telling.any p = false) (cs : List Char) :
    StepsOver cs (cs.drop (cs.takeWhile p).length) := by
  refine ⟨cs.takeWhile p, ?_, fun c hc => isPlain_of hp (List.mem_takeWhile_imp hc)⟩
  exact (List.prefix_iff_eq_append.mp (List.takeWhile_prefix p)).symm

end StepsOver

namespace Lexing

/-! ### Numbers -/

/-- A number, if it can be read, steps over characters that do not count. -/
def NumberResult.StepsOver (cs : List Char) (r : NumberResult) : Prop :=
  ∀ taken rest, r = .ok (taken, rest) → Syntax.StepsOver cs rest

theorem NumberResult.StepsOver.error (cs : List Char) (c : Complaint) :
    NumberResult.StepsOver cs (.error c) := nofun

theorem NumberResult.StepsOver.ok {cs rest : List Char} (h : Syntax.StepsOver cs rest)
    (taken : List Char) : NumberResult.StepsOver cs (.ok (taken, rest)) := by
  rintro _ _ ⟨⟩
  exact h

theorem NumberResult.StepsOver.cons {c : Char} {cs : List Char} {r : NumberResult}
    (hc : isPlain c = true) (h : NumberResult.StepsOver cs r) :
    NumberResult.StepsOver (c :: cs) r :=
  fun taken rest hr => (h taken rest hr).cons hc

theorem NumberResult.StepsOver.after {cs rest : List Char} {r : NumberResult}
    (h : Syntax.StepsOver cs rest) (hr : NumberResult.StepsOver rest r) :
    NumberResult.StepsOver cs r :=
  fun taken last hlast => h.trans (hr taken last hlast)

theorem NumberResult.StepsOver.bind {cs : List Char} {r : NumberResult}
    {f : List Char × List Char → NumberResult} (h : NumberResult.StepsOver cs r)
    (hf : ∀ taken rest, NumberResult.StepsOver rest (f (taken, rest))) :
    NumberResult.StepsOver cs (r >>= f) := by
  cases r with
  | error c => exact .error cs c
  | ok p => exact .after (h p.1 p.2 rfl) (hf p.1 p.2)

theorem stepsOver_digits {isDigit : Char → Bool} (h : ∀ c, isDigit c = true → isPlain c = true)
    (taken cs : List Char) : Syntax.StepsOver cs (digits isDigit taken cs).2 := by
  fun_induction digits isDigit taken cs with
  | case1 taken c rest hc ih => exact .cons (by decide) (.cons (h c hc) ih)
  | case2 => exact .refl _
  | case3 taken c rest _ hc ih => exact .cons (h c hc) ih
  | case4 => exact .refl _
  | case5 => exact .refl _

theorem isPlain_of_isDigit (c : Char) (h : c.isDigit = true) : isPlain c = true :=
  isPlain_of (p := Char.isDigit) (by decide) h

theorem stepsOver_decimalDigits (taken cs : List Char) :
    NumberResult.StepsOver cs (decimalDigits taken cs) := by
  have hdigits := stepsOver_digits isPlain_of_isDigit taken cs
  rw [decimalDigits]
  split
  · exact .error _ _
  next heq =>
    rw [heq] at hdigits
    exact .ok hdigits _

theorem stepsOver_endNumber (kind : NumberKind) (taken rest : List Char) :
    NumberResult.StepsOver rest (endNumber kind taken rest) := by
  rw [endNumber]
  split
  · exact .ok (.refl _) _
  · split
    · exact .error _ _
    · exact .ok (.refl _) _

theorem stepsOver_imaginaryEnd (taken cs : List Char) :
    NumberResult.StepsOver cs (imaginaryEnd taken cs) := by
  unfold imaginaryEnd
  split
  next c rest =>
    split
    next hc =>
      have hplain : isPlain c = true := isPlain_of (p := fun c => c == 'j' || c == 'J') (by decide) hc
      exact .cons hplain (stepsOver_endNumber _ _ _)
    next => exact stepsOver_endNumber _ _ _
  next => exact .ok (.refl _) _

theorem stepsOver_exponentEnd (taken cs : List Char) :
    NumberResult.StepsOver cs (exponentEnd taken cs) := by
  have hend (taken cs : List Char) :
      NumberResult.StepsOver cs (decimalDigits taken cs >>= fun r => imaginaryEnd r.1 r.2) :=
    (stepsOver_decimalDigits taken cs).bind fun taken rest => stepsOver_imaginaryEnd taken rest
  unfold exponentEnd
  split
  case h_2 => exact .ok (.refl _) _
  next e rest =>
    split
    case isFalse => exact stepsOver_imaginaryEnd _ _
    next he =>
      have he : isPlain e = true := isPlain_of (p := fun e => e == 'e' || e == 'E') (by decide) he
      split
      case h_2 => exact .error _ _
      next s d more =>
        split
        next hs =>
          have hs : isPlain s = true :=
            isPlain_of (p := fun s => s == '+' || s == '-') (by decide) hs
          split
          · exact .cons he (.cons hs (hend _ _))
          · exact .error _ _
        next =>
          split
          · exact .cons he (hend _ _)
          · exact stepsOver_endNumber _ _ _

theorem stepsOver_fractionEnd (taken cs : List Char) :
    NumberResult.StepsOver cs (fractionEnd taken cs) := by
  unfold fractionEnd
  split
  · split
    · exact (stepsOver_decimalDigits _ _).bind fun taken rest => stepsOver_exponentEnd taken rest
    · exact stepsOver_exponentEnd _ _
  · exact stepsOver_exponentEnd _ _

theorem stepsOver_basedNumber {isDigit : Char → Bool} (h : ∀ c, isDigit c = true → isPlain c = true)
    (kind : NumberKind) (taken cs : List Char) :
    NumberResult.StepsOver cs (basedNumber kind isDigit taken cs) := by
  have hdigits := stepsOver_digits h taken cs
  unfold basedNumber
  extract_lets wrong first
  split
  case isFalse => exact .error _ _
  next =>
    split
    · exact .error _ _
    next heq =>
      rw [heq] at hdigits
      split
      · exact .error _ _
      · exact .after hdigits (stepsOver_endNumber _ _ _)

theorem stepsOver_zeroTail {cs : List Char} {r : List Char × List Char}
    (h : Syntax.StepsOver cs r.2) : NumberResult.StepsOver cs (zeroNumber.zeroTail r) := by
  refine .after h ?_
  unfold zeroNumber.zeroTail
  split
  · exact .error _ _
  · exact .cons (by decide) (stepsOver_fractionEnd _ _)
  · split
    · exact stepsOver_exponentEnd _ _
    · split
      · exact stepsOver_imaginaryEnd _ _
      · exact .error _ _
  · exact .error _ _

theorem isPlain_of_isZero (c : Char) (h : isZero c = true) : isPlain c = true :=
  isPlain_of (p := isZero) (by decide) h

theorem stepsOver_zeroNumber (cs : List Char) : NumberResult.StepsOver cs (zeroNumber cs) := by
  have hzeros := stepsOver_digits isPlain_of_isZero [] cs
  rw [zeroNumber]
  split
  next taken c rest heq =>
    rw [heq] at hzeros
    split
    next hc =>
      refine stepsOver_zeroTail (hzeros.trans ?_)
      exact .cons (by decide) (.cons (isPlain_of_isDigit c hc)
        (stepsOver_digits isPlain_of_isDigit _ _))
    next => exact .error _ _
  next => exact .error _ _
  next taken rest heq =>
    rw [heq] at hzeros
    split
    · exact stepsOver_zeroTail (hzeros.trans (stepsOver_digits isPlain_of_isDigit _ _))
    · refine .after hzeros ?_
      split
      · exact .cons (by decide) (stepsOver_fractionEnd _ _)
      · split
        · exact stepsOver_exponentEnd _ _
        · split
          · exact stepsOver_imaginaryEnd _ _
          · exact stepsOver_endNumber _ _ _
      · exact .ok (.refl _) _

theorem stepsOver_number (cs : List Char) : NumberResult.StepsOver cs (number cs) := by
  have hhex (c : Char) (h : isHexDigit c = true) : isPlain c = true :=
    isPlain_of (p := isHexDigit) (by decide) h
  have hoctal (c : Char) (h : isOctalDigit c = true) : isPlain c = true :=
    isPlain_of (p := isOctalDigit) (by decide) h
  have hbinary (c : Char) (h : isBinaryDigit c = true) : isPlain c = true :=
    isPlain_of (p := isBinaryDigit) (by decide) h
  unfold number
  split
  · exact .cons (by decide) (stepsOver_fractionEnd _ _)
  next c rest =>
    split
    next hc =>
      have hc : isPlain c = true := isPlain_of (p := fun c => c == 'x' || c == 'X') (by decide) hc
      exact .cons (by decide) (.cons hc (stepsOver_basedNumber hhex _ _ _))
    next =>
      split
      next hc =>
        have hc : isPlain c = true := isPlain_of (p := fun c => c == 'o' || c == 'O') (by decide) hc
        exact .cons (by decide) (.cons hc (stepsOver_basedNumber hoctal _ _ _))
      next =>
        split
        next hc =>
          have hc : isPlain c = true :=
            isPlain_of (p := fun c => c == 'b' || c == 'B') (by decide) hc
          exact .cons (by decide) (.cons hc (stepsOver_basedNumber hbinary _ _ _))
        next => exact stepsOver_zeroNumber _
  · exact stepsOver_zeroNumber _
  · refine (stepsOver_decimalDigits _ _).bind fun taken rest => ?_
    dsimp only
    split
    · exact .cons (by decide) (stepsOver_fractionEnd _ _)
    · exact stepsOver_exponentEnd _ _

/-! ### Words and symbols -/

theorem isWordChar_telling : telling.any isWordChar = false := by decide

theorem isPlain_of_mem_symbols {s : List Char} (h : s ∈ longSymbols ∨ s ∈ middleSymbols) :
    1 < s.length ∧ ∀ c ∈ s, isPlain c = true := by
  have hall : (longSymbols ++ middleSymbols).all (fun s => 1 < s.length && s.all isPlain) = true := by
    decide
  have hs := List.all_eq_true.mp hall s (List.mem_append.mpr h)
  obtain ⟨hlength, hplain⟩ := Bool.and_eq_true_iff.mp hs
  exact ⟨of_decide_eq_true hlength, List.all_eq_true.mp hplain⟩

/-- A symbol is one character, or several that do not count. -/
theorem symbol_cases (c : Char) (rest : List Char) :
    symbol (c :: rest) = [c] ∨
      1 < (symbol (c :: rest)).length ∧
        StepsOver (c :: rest) ((c :: rest).drop (symbol (c :: rest)).length) := by
  let front (s : List Char) : Bool := s.isPrefixOf (c :: rest)
  have hstep {s : List Char} (hmem : s ∈ longSymbols ∨ s ∈ middleSymbols)
      (hfront : front s = true) :
      1 < s.length ∧ StepsOver (c :: rest) ((c :: rest).drop s.length) := by
    obtain ⟨hlength, hplain⟩ := isPlain_of_mem_symbols hmem
    have hsplit := List.prefix_iff_eq_append.mp (List.isPrefixOf_iff_prefix.mp hfront)
    exact ⟨hlength, s, hsplit.symm, hplain⟩
  unfold symbol
  split
  next s hs =>
    exact .inr (hstep (.inl (List.mem_of_find?_eq_some hs)) (List.find?_some (p := front) hs))
  next s _ hs =>
    exact .inr (hstep (.inr (List.mem_of_find?_eq_some hs)) (List.find?_some (p := front) hs))
  next => exact .inl rfl

/-! ### Texts -/

/-- Letters that lead up to a quote are all the letters before it. -/
theorem quote_of_leadsToQuote {b r u f : Bool} {cs : List Char}
    (h : leadsToQuote b r u f cs = true) :
    ∃ (q : Quote) (rest : List Char), cs.drop (cs.takeWhile Char.isAlpha).length = q.char :: rest := by
  induction cs generalizing b r u f with
  | nil => cases h
  | cons c rest ih =>
    unfold leadsToQuote at h
    extract_lets next at h
    have hnext {b r u f : Bool} (hc : c.isAlpha = true) (h : next b r u f = true) :
        ∃ (q : Quote) (more : List Char),
          (c :: rest).drop ((c :: rest).takeWhile Char.isAlpha).length = q.char :: more := by
      rw [List.takeWhile_cons_of_pos hc, List.length_cons, List.drop_succ_cons]
      dsimp only [next] at h
      split at h
      next more _ => exact ⟨.double, more, rfl⟩
      next more _ => exact ⟨.single, more, rfl⟩
      next => exact ih h
    have hletter (d e : Char) (hd : d.isAlpha = true) (he : e.isAlpha = true)
        (hc : (c == d || c == e) = true) : c.isAlpha = true := by
      rcases Bool.or_eq_true_iff.mp hc with hc | hc
      · exact beq_iff_eq.mp hc ▸ hd
      · exact beq_iff_eq.mp hc ▸ he
    split at h
    next hc =>
      exact hnext (hletter 'b' 'B' (by decide) (by decide) (Bool.and_eq_true_iff.mp hc).2) h
    next =>
      split at h
      next hc =>
        exact hnext (hletter 'u' 'U' (by decide) (by decide) (Bool.and_eq_true_iff.mp hc).2) h
      next =>
        split at h
        next hc =>
          exact hnext (hletter 'r' 'R' (by decide) (by decide) (Bool.and_eq_true_iff.mp hc).2) h
        next =>
          split at h
          next hc =>
            exact hnext (hletter 'f' 'F' (by decide) (by decide) (Bool.and_eq_true_iff.mp hc).2) h
          next => cases h

theorem readFrom_long_of_textBody {q : Quote} (seen : Nat) {line column : Nat}
    {taken cs : List Char} {r : List Char × Head} (hseen : seen < 3)
    (h : textBody.go q.char 3 seen taken line column cs = .ok r) :
    readFrom (.long q) line (List.replicate seen q.char ++ cs) = readFrom .code r.2.line r.2.rest := by
  fun_induction textBody.go q.char 3 seen taken line column cs with
  | case1 => cases h
  | case2 seen taken line column c rest hc ih =>
    rw [readFrom_long_quotes hseen q.char_ne.1.symm, readFrom_long_escape, if_pos (beq_iff_eq.mp hc)]
    exact ih (by omega) h
  | case3 seen taken line column c rest hc ih =>
    rw [readFrom_long_quotes hseen q.char_ne.1.symm, readFrom_long_escape, if_neg (mt beq_iff_eq.mpr hc)]
    exact ih (by omega) h
  | case4 seen taken line column c rest _ hc hlast =>
    cases h
    obtain rfl : seen = 2 := by omega
    obtain rfl := beq_iff_eq.mp hc
    exact readFrom_long_close q line rest
  | case5 seen taken line column c rest _ hc hlast ih =>
    have hmore := ih (by omega) h
    obtain rfl := beq_iff_eq.mp hc
    rwa [List.replicate_succ', List.append_assoc] at hmore
  | case6 => contradiction
  | case7 seen taken line column c rest _ hc hnew _ ih =>
    obtain rfl := beq_iff_eq.mp hnew
    rw [readFrom_long_quotes hseen q.char_ne.2.1.symm, readFrom_long_newline]
    exact ih (by omega) h
  | case8 seen taken line column c rest hback hc hnew ih =>
    have hback : c ≠ '\\' := by
      rintro rfl
      cases rest with
      | nil => cases h
      | cons d more => exact hback d more rfl rfl
    have hc : c ≠ q.char := fun heq => hc (beq_iff_eq.mpr heq)
    have hnew : c ≠ '\n' := fun heq => hnew (beq_iff_eq.mpr heq)
    rw [readFrom_long_quotes hseen hc, readFrom_long_plain hnew hback hc]
    exact ih (by omega) h

theorem readFrom_short_of_textBody {q : Quote} {line column : Nat} {taken cs : List Char}
    {r : List Char × Head} (h : textBody.go q.char 1 0 taken line column cs = .ok r) :
    readFrom (.short q) line cs = readFrom .code r.2.line r.2.rest := by
  generalize hseen : 0 = seen at h
  fun_induction textBody.go q.char 1 seen taken line column cs with
  | case1 => cases h
  | case2 seen taken line column c rest hc ih =>
    rw [readFrom_short_escape, if_pos (beq_iff_eq.mp hc)]
    exact ih rfl h
  | case3 seen taken line column c rest hc ih =>
    rw [readFrom_short_escape, if_neg (mt beq_iff_eq.mpr hc)]
    exact ih rfl h
  | case4 seen taken line column c rest _ hc =>
    cases h
    obtain rfl := beq_iff_eq.mp hc
    exact readFrom_short_close q line rest
  | case5 seen taken line column c rest _ hc hlast => exact absurd hseen (by omega)
  | case6 => cases h
  | case7 => contradiction
  | case8 seen taken line column c rest hback hc hnew ih =>
    have hback : c ≠ '\\' := by
      rintro rfl
      cases rest with
      | nil => cases h
      | cons d more => exact hback d more rfl rfl
    have hc : c ≠ q.char := fun heq => hc (beq_iff_eq.mpr heq)
    have hnew : c ≠ '\n' := fun heq => hnew (beq_iff_eq.mpr heq)
    rw [readFrom_short_plain hnew hback hc]
    exact ih rfl h

theorem readFrom_of_shortLiteral {q : Quote} {taken rest : List Char} {h : Head}
    {r : List Char × Head} (honce : ∀ more, rest ≠ q.char :: q.char :: more)
    (hr : textLiteral.short taken h q.char rest = .ok r) :
    readFrom .code h.line (q.char :: rest) = readFrom .code r.2.line r.2.rest := by
  rw [readFrom_open_short honce]
  unfold textLiteral.short textBody at hr
  split at hr
  next r' hbody =>
    cases hr
    exact readFrom_short_of_textBody hbody
  next => cases hr

/-- What stands behind a text is read as if the text were not there. -/
theorem readFrom_of_textLiteral {q : Quote} {taken rest : List Char} {h : Head}
    {r : List Char × Head} (hrest : h.rest = q.char :: rest) (hr : textLiteral taken h = .ok r) :
    readFrom .code h.line h.rest = readFrom .code r.2.line r.2.rest := by
  rw [hrest]
  unfold textLiteral at hr
  rw [hrest] at hr
  match rest, hr with
  | [], hr => exact readFrom_of_shortLiteral nofun hr
  | [a], hr => exact readFrom_of_shortLiteral nofun hr
  | a :: b :: inside, hr =>
    dsimp only at hr
    split at hr
    next hthrice =>
      obtain ⟨ha, hb⟩ := Bool.and_eq_true_iff.mp hthrice
      obtain rfl := beq_iff_eq.mp ha
      obtain rfl := beq_iff_eq.mp hb
      rw [readFrom_open_long]
      split at hr
      next r' hbody =>
        cases hr
        exact readFrom_long_of_textBody 0 (by omega) hbody
      next => cases hr
    next hthrice =>
      have honce : ∀ more, a :: b :: inside ≠ q.char :: q.char :: more := by
        rintro more ⟨⟩
        exact hthrice (by simp)
      split at hr
      next ha =>
        cases hr
        obtain rfl := beq_iff_eq.mp ha
        rw [readFrom_open_short honce, readFrom_short_close]
      next => exact readFrom_of_shortLiteral honce hr

/-! ### Indentation -/

/-- Blanks at the start of a line and the lines that are joined to it do not count. -/
theorem readFrom_of_indentation {i i' : Indentation} {line column : Nat} {cs : List Char} {head : Head}
    (h : indentation i line column cs = .ok (i', head)) :
    readFrom .code line cs = readFrom .code head.line head.rest := by
  fun_induction indentation i line column cs with
  | case1 i line column rest ih => rw [readFrom_of_isPlain (by decide), ih h]
  | case2 i line column rest ih => rw [readFrom_of_isPlain (by decide), ih h]
  | case3 i line column rest ih => rw [readFrom_of_isPlain (by decide), ih h]
  | case4 => cases h
  | case5 i line column rest _ ih => rw [readFrom_continuation, ih h]
  | case6 => cases h
  | case7 => cases h; rfl

end Lexing

end SourceConventions.Syntax
