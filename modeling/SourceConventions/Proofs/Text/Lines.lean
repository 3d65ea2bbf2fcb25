import Mathlib.Data.List.Forall2
import Mathlib.Data.List.Infix
import Mathlib.Data.List.TakeWhile
import SourceConventions.Text.Margin

/-!
# Lines of a text, its margin and its line ends

Taking the margin away takes blanks from the front of every line. Making the line ends the same
takes a carriage return from the end of every line, in a text in which carriage returns stand
nowhere else.
-/

namespace SourceConventions.Text

/-- A text up to its first line feed. -/
def firstLine (cs : List Char) : List Char := cs.takeWhile (· != '\n')

/-- The lines of a text without the first one. -/
def laterLines (cs : List Char) : List (List Char) := (lines cs).tail

theorem linesFrom_eq_splitOnPPrepend (taken cs : List Char) :
    linesFrom taken cs = cs.splitOnPPrepend (· == '\n') taken := by
  induction cs generalizing taken with
  | nil => rfl
  | cons c rest ih =>
    rw [linesFrom, List.splitOnPPrepend_cons_eq_if, ih, ih]
    simp

theorem lines_eq_splitOn (cs : List Char) : lines cs = cs.splitOn '\n' :=
  linesFrom_eq_splitOnPPrepend [] cs

theorem lines_ne_nil (cs : List Char) : lines cs ≠ [] := by
  rw [lines_eq_splitOn]
  exact List.splitOn_ne_nil _ _

theorem lines_newline (cs : List Char) : lines ('\n' :: cs) = [] :: lines cs := rfl

theorem lines_of_notMem {line : List Char} (h : '\n' ∉ line) : lines line = [line] := by
  rw [lines_eq_splitOn]
  exact List.splitOn_eq_singleton h

theorem lines_line {l : List Char} (h : '\n' ∉ l) (cs : List Char) :
    lines (l ++ '\n' :: cs) = l :: lines cs := by
  rw [lines_eq_splitOn, lines_eq_splitOn]
  exact List.splitOn_append_cons_self_of_not_mem h cs

theorem lines_append_newline (cs : List Char) : lines (cs ++ ['\n']) = lines cs ++ [[]] := by
  rw [lines_eq_splitOn, lines_eq_splitOn]
  exact List.splitOn_append_cons_self cs []

theorem lines_intercalate {ls : List (List Char)} (hne : ls ≠ []) (h : ∀ l ∈ ls, '\n' ∉ l) :
    lines (['\n'].intercalate ls) = ls := by
  rw [lines_eq_splitOn]
  exact List.splitOn_intercalate '\n' h hne

theorem notMem_firstLine (cs : List Char) : '\n' ∉ firstLine cs := by
  intro h
  simpa using List.mem_takeWhile_imp h

/-- A text is a single line, or a line and a text behind the line feed that ends it. -/
theorem line_or_more (cs : List Char) :
    '\n' ∉ cs ∨ ∃ line rest, '\n' ∉ line ∧ cs = line ++ '\n' :: rest := by
  by_cases h : '\n' ∈ cs
  · refine .inr ⟨firstLine cs, (cs.dropWhile (· != '\n')).tail, notMem_firstLine cs, ?_⟩
    induction cs with
    | nil => cases h
    | cons c rest ih =>
      by_cases hc : c = '\n'
      · simp [firstLine, hc]
      · have hrest := ih ((List.mem_cons.mp h).resolve_left (Ne.symm hc))
        simpa [firstLine, hc] using hrest
  · exact .inl h

/-- Induction on the number of lines. -/
@[elab_as_elim]
theorem induction_lines {motive : List Char → Prop} (cs : List Char)
    (single : ∀ line, '\n' ∉ line → motive line)
    (more : ∀ line rest, '\n' ∉ line → motive rest → motive (line ++ '\n' :: rest)) :
    motive cs := by
  induction hlen : cs.length using Nat.strong_induction_on generalizing cs with
  | _ k ih =>
    rcases line_or_more cs with hno | ⟨line, rest, hno, rfl⟩
    · exact single cs hno
    · have hlt : rest.length < k := by
        rw [← hlen, List.length_append, List.length_cons]
        omega
      exact more line rest hno (ih rest.length hlt rest rfl)

theorem firstLine_append_newline {line : List Char} (h : '\n' ∉ line) (cs : List Char) :
    firstLine (line ++ '\n' :: cs) = line := by
  rw [firstLine, List.takeWhile_append_of_pos]
  · simp
  · intro c hc
    exact bne_iff_ne.mpr fun heq => h (heq ▸ hc)

theorem firstLine_of_notMem {line : List Char} (h : '\n' ∉ line) : firstLine line = line :=
  List.takeWhile_eq_self_iff.mpr fun _ hc => bne_iff_ne.mpr fun heq => h (heq ▸ hc)

theorem lines_append {p : List Char} (h : '\n' ∉ p) (cs : List Char) :
    lines (p ++ cs) = (p ++ firstLine cs) :: laterLines cs := by
  rcases line_or_more cs with hno | ⟨line, rest, hno, rfl⟩
  · have hall : '\n' ∉ p ++ cs := fun hmem => (List.mem_append.mp hmem).elim h hno
    rw [lines_of_notMem hall, firstLine_of_notMem hno, laterLines, lines_of_notMem hno]
    rfl
  · have hall : '\n' ∉ p ++ line := fun hmem => (List.mem_append.mp hmem).elim h hno
    rw [← List.append_assoc, lines_line hall, firstLine_append_newline hno, laterLines,
      lines_line hno]
    rfl

theorem lines_eq (cs : List Char) : lines cs = firstLine cs :: laterLines cs :=
  lines_append List.not_mem_nil cs

theorem notMem_of_mem_lines {line cs : List Char} (h : line ∈ lines cs) : '\n' ∉ line := by
  induction cs using induction_lines with
  | single own hno =>
    rw [lines_of_notMem hno] at h
    rwa [List.mem_singleton.mp h]
  | more first rest hno ih =>
    rw [lines_line hno] at h
    rcases List.mem_cons.mp h with rfl | h
    · exact hno
    · exact ih h

/-! ### Margins -/

theorem shared_isPrefix_left (a b : List Char) : shared a b <+: a := by
  fun_induction shared a b with
  | case1 c as bs ih => exact List.cons_prefix_cons.mpr ⟨rfl, ih⟩
  | case2 => exact List.nil_prefix
  | case3 => exact List.nil_prefix

theorem shared_isPrefix_right (a b : List Char) : shared a b <+: b := by
  fun_induction shared a b with
  | case1 c as bs ih => exact List.cons_prefix_cons.mpr ⟨rfl, ih⟩
  | case2 => exact List.nil_prefix
  | case3 => exact List.nil_prefix

theorem margin_isPrefix {ls : List (List Char)} {m line : List Char} (h : margin? ls = some m)
    (hline : line ∈ ls) (hne : line ≠ []) : m <+: line.takeWhile isMarginChar := by
  induction ls generalizing m with
  | nil => cases hline
  | cons first rest ih =>
    rw [margin?] at h
    split at h
    next hempty =>
      have hfirst : line ≠ first := fun heq => hne (heq ▸ List.isEmpty_iff.mp hempty)
      exact ih h ((List.mem_cons.mp hline).resolve_left hfirst)
    next =>
      rcases List.mem_cons.mp hline with rfl | hline
      · cases hrest : margin? rest with
        | none =>
          rw [hrest] at h
          cases h
          exact List.prefix_rfl
        | some own =>
          rw [hrest] at h
          cases h
          exact shared_isPrefix_left _ _
      · cases hrest : margin? rest with
        | none => exact absurd (not_margin_none hline hne) (by simp [hrest])
        | some own =>
          rw [hrest] at h
          cases h
          exact (shared_isPrefix_right _ _).trans (ih hrest hline)
where
  not_margin_none {ls : List (List Char)} {line : List Char} (hline : line ∈ ls) (hne : line ≠ []) :
      (margin? ls).isSome = true := by
    induction ls with
    | nil => cases hline
    | cons first rest ih =>
      rw [margin?]
      split
      next hempty =>
        have hfirst : line ≠ first := fun heq => hne (heq ▸ List.isEmpty_iff.mp hempty)
        exact ih ((List.mem_cons.mp hline).resolve_left hfirst)
      next => cases margin? rest <;> rfl

/-- A line, and what is left of it when blanks in front of it are taken away. -/
def Outdented (line line' : List Char) : Prop :=
  ∃ blanks, (∀ c ∈ blanks, isMarginChar c = true) ∧ line = blanks ++ line'

theorem outdented_drop_emptied {ls : List (List Char)} {line : List Char} (h : line ∈ ls) :
    Outdented line ((emptied line).drop ((margin? (ls.map emptied)).getD []).length) := by
  by_cases hall : line.all isMarginChar = true
  · refine ⟨line, List.all_eq_true.mp hall, ?_⟩
    simp [emptied, hall]
  have hsame : emptied line = line := if_neg hall
  have hne : line ≠ [] := fun heq => hall (heq ▸ rfl)
  rw [hsame]
  cases hmargin : margin? (ls.map emptied) with
  | none => exact ⟨[], by simp, by simp⟩
  | some m =>
    have hmem : line ∈ ls.map emptied := List.mem_map.mpr ⟨line, h, hsame⟩
    obtain ⟨more, hmore⟩ := margin_isPrefix hmargin hmem hne
    have hblank : ∀ c ∈ m, isMarginChar c = true := fun c hc =>
      List.mem_takeWhile_imp (hmore ▸ List.mem_append_left more hc)
    obtain ⟨rest, hrest⟩ : m <+: line := ⟨_, by
      rw [← List.takeWhile_append_dropWhile (p := isMarginChar) (l := line), ← hmore,
        List.append_assoc]⟩
    refine ⟨m, hblank, ?_⟩
    rw [← hrest]
    simp

theorem lines_withoutMargin (cs : List Char) :
    List.Forall₂ Outdented (lines cs) (lines (withoutMargin cs)) := by
  have hlines : lines (withoutMargin cs) = ((lines cs).map emptied).map
      (List.drop ((margin? ((lines cs).map emptied)).getD []).length) := by
    refine lines_intercalate ?_ fun l hl => ?_
    · simp [lines_ne_nil]
    · obtain ⟨_, hmem, rfl⟩ := List.mem_map.mp hl
      obtain ⟨line, hline, rfl⟩ := List.mem_map.mp hmem
      obtain ⟨blanks, -, heq⟩ := outdented_drop_emptied hline
      intro hnew
      have hmem := List.mem_append_right blanks hnew
      rw [← heq] at hmem
      exact notMem_of_mem_lines hline hmem
  rw [hlines, List.map_map, List.forall₂_map_right_iff, List.forall₂_same]
  exact fun line hline => outdented_drop_emptied hline

/-- A text has no margin if one of its lines starts at it and lines of blanks are empty. -/
theorem withoutMargin_eq_self {cs : List Char}
    (hblank : ∀ line ∈ lines cs, line.all isMarginChar = true → line = []) {c : Char}
    {rest : List Char} (hline : c :: rest ∈ lines cs) (hc : isMarginChar c = false) :
    withoutMargin cs = cs := by
  have hemptied : (lines cs).map emptied = lines cs := by
    refine (List.map_congr_left fun line hmem => ?_).trans (List.map_id _)
    rw [emptied]
    split
    next hall => exact (hblank line hmem hall).symm
    next => rfl
  have hmargin : (margin? (lines cs)).getD [] = [] := by
    cases h : margin? (lines cs) with
    | none => rfl
    | some m =>
      have hprefix := margin_isPrefix h hline (List.cons_ne_nil c rest)
      rw [List.takeWhile_cons_of_neg (Bool.eq_false_iff.mp hc)] at hprefix
      exact List.prefix_nil.mp hprefix
  have hkept : (List.drop 0 : List Char → List Char) = id := funext fun _ => List.drop_zero
  rw [withoutMargin, hemptied, hmargin, List.length_nil, hkept, List.map_id, lines_eq_splitOn]
  exact List.intercalate_splitOn '\n'

/-- One of the lines starts at the margin, and lines of blanks are empty. -/
def AtMargin (cs : List Char) : Prop :=
  (∀ line ∈ lines cs, line.all isMarginChar = true → line = []) ∧
    ∃ c rest, c :: rest ∈ lines cs ∧ isMarginChar c = false

theorem AtMargin.withoutMargin_eq {cs : List Char} (h : AtMargin cs) : withoutMargin cs = cs := by
  obtain ⟨hblank, c, rest, hline, hc⟩ := h
  exact withoutMargin_eq_self hblank hline hc

/-- A text whose lines are indented, those of nothing but blanks apart. -/
def indented (blanks cs : List Char) : List Char :=
  ['\n'].intercalate ((lines cs).map fun line => if line.all isMarginChar then line else blanks ++ line)

theorem shared_append (cs a b : List Char) : shared (cs ++ a) (cs ++ b) = cs ++ shared a b := by
  induction cs with
  | nil => rfl
  | cons c rest ih => rw [List.cons_append, List.cons_append, shared, if_pos rfl, ih, List.cons_append]

/-- What lines that are not empty start with widens their margin. -/
theorem margin_map {blanks : List Char} (h : ∀ c ∈ blanks, isMarginChar c = true)
    (ls : List (List Char)) :
    margin? (ls.map fun line => if line.isEmpty then [] else blanks ++ line) =
      (margin? ls).map (blanks ++ ·) := by
  induction ls with
  | nil => rfl
  | cons line rest ih =>
    rw [List.map_cons, margin?, margin?]
    by_cases hempty : line.isEmpty = true
    · rw [if_pos hempty, if_pos List.isEmpty_nil, if_pos hempty, ih]
    · have hne : ¬ (blanks ++ line).isEmpty = true := by
        rw [List.isEmpty_iff, List.append_eq_nil_iff, ← List.isEmpty_iff (l := line)]
        exact fun hboth => hempty hboth.2
      rw [if_neg hempty, if_neg hne, if_neg hempty, ih, List.takeWhile_append_of_pos h]
      cases margin? rest with
      | none => rfl
      | some m => exact congrArg some (shared_append ..)

/-- The margin of a text takes up what its lines are indented by. -/
theorem withoutMargin_indented {blanks : List Char} (h : ∀ c ∈ blanks, isMarginChar c = true)
    (cs : List Char) : withoutMargin (indented blanks cs) = withoutMargin cs := by
  have hlines : lines (indented blanks cs) =
      (lines cs).map fun line => if line.all isMarginChar then line else blanks ++ line := by
    refine lines_intercalate (by simp [lines_ne_nil]) fun line hline => ?_
    obtain ⟨own, hown, rfl⟩ := List.mem_map.mp hline
    have hnew := notMem_of_mem_lines hown
    split
    · exact hnew
    · exact fun hmem => (List.mem_append.mp hmem).elim (fun hb => absurd (h _ hb) (by decide)) hnew
  have hemptied : (lines (indented blanks cs)).map emptied =
      ((lines cs).map emptied).map fun line => if line.isEmpty then [] else blanks ++ line := by
    rw [hlines, List.map_map, List.map_map]
    refine List.map_congr_left fun line _ => ?_
    dsimp only [Function.comp_apply]
    by_cases hall : line.all isMarginChar = true
    · rw [if_pos hall, emptied, if_pos hall, if_pos List.isEmpty_nil]
    · have hne : ¬ line.isEmpty = true := fun hempty => hall (by rw [List.isEmpty_iff.mp hempty]; rfl)
      have hmore : ¬ (blanks ++ line).all isMarginChar = true := by
        rw [List.all_append, Bool.and_eq_true]
        exact fun hboth => hall hboth.2
      rw [if_neg hall, emptied, if_neg hmore, emptied, if_neg hall, if_neg hne]
  rw [withoutMargin, withoutMargin, hemptied, margin_map h, List.map_map]
  refine congrArg _ (List.map_congr_left fun line hline => ?_)
  dsimp only [Function.comp_apply]
  by_cases hempty : line = []
  · simp [hempty]
  · obtain ⟨m, hm⟩ := Option.isSome_iff_exists.mp (margin_isPrefix.not_margin_none hline hempty)
    rw [if_neg (by rwa [List.isEmpty_iff]), hm, Option.map_some, Option.getD_some, Option.getD_some,
      List.length_append, List.drop_length_add_append]

/-! ### Line ends -/

/-- Whether every carriage return stands right before a line feed. -/
def returnsEndLines : List Char → Bool
  | '\r' :: '\n' :: rest => returnsEndLines rest
  | c :: rest => c != '\r' && returnsEndLines rest
  | [] => true

/-- A line without the carriage return at its end. -/
def withoutReturn (line : List Char) : List Char :=
  if line.getLast? = some '\r' then line.dropLast else line

theorem eq_withoutReturn (line : List Char) :
    line = withoutReturn line ∨ line = withoutReturn line ++ ['\r'] := by
  by_cases h : line.getLast? = some '\r'
  · rw [withoutReturn, if_pos h]
    exact .inr (List.dropLast_append_getLast? '\r' h).symm
  · rw [withoutReturn, if_neg h]
    exact .inl rfl

theorem withoutReturn_cons {c : Char} (h : c ≠ '\r') (line : List Char) :
    withoutReturn (c :: line) = c :: withoutReturn line := by
  cases line with
  | nil => simp [withoutReturn, h]
  | cons d rest =>
    by_cases hlast : (d :: rest).getLast? = some '\r'
    · simp [withoutReturn, List.getLast?_cons_cons, hlast]
    · simp [withoutReturn, List.getLast?_cons_cons, hlast]

theorem Outdented.withoutReturn {line line' : List Char} (h : Outdented line line') :
    Outdented (withoutReturn line) (withoutReturn line') := by
  obtain ⟨blanks, hblank, rfl⟩ := h
  refine ⟨blanks, hblank, ?_⟩
  induction blanks with
  | nil => rfl
  | cons c blanks ih =>
    obtain ⟨hc, hrest⟩ := List.forall_mem_cons.mp hblank
    have hreturn : c ≠ '\r' := by
      rintro rfl
      cases hc
    rw [List.cons_append, withoutReturn_cons hreturn, ih hrest, List.cons_append]

/-- Lines in which carriage returns stand at the end only, and not at all in the last one. -/
def ReturnsLast : List (List Char) → Prop
  | [] => True
  | [line] => '\r' ∉ line
  | line :: rest => '\r' ∉ withoutReturn line ∧ ReturnsLast rest

theorem returnsLast_cons {ls : List (List Char)} (h : ls ≠ []) (line : List Char) :
    ReturnsLast (line :: ls) ↔ '\r' ∉ withoutReturn line ∧ ReturnsLast ls := by
  cases ls with
  | nil => exact absurd rfl h
  | cons next rest => rfl

theorem returnsLast_of_returnsEndLines {cs : List Char} (h : returnsEndLines cs = true) :
    ReturnsLast (lines cs) := by
  fun_induction returnsEndLines cs with
  | case1 rest ih =>
    have hlines : lines ('\r' :: '\n' :: rest) = ['\r'] :: lines rest :=
      lines_line (l := ['\r']) (by decide) rest
    rw [hlines, returnsLast_cons (lines_ne_nil rest)]
    exact ⟨by decide, ih h⟩
  | case2 c rest hnot ih =>
    obtain ⟨hc, hrest⟩ := Bool.and_eq_true_iff.mp h
    have hc : c ≠ '\r' := bne_iff_ne.mp hc
    have ih := ih hrest
    by_cases hnew : c = '\n'
    · subst hnew
      rw [lines_newline, returnsLast_cons (lines_ne_nil rest)]
      exact ⟨by decide, ih⟩
    · have hlines : lines (c :: rest) = (c :: firstLine rest) :: laterLines rest :=
        lines_append (p := [c]) (by simpa using Ne.symm hnew) rest
      rw [lines_eq] at ih
      rw [hlines]
      cases hlater : laterLines rest with
      | nil =>
        rw [hlater] at ih
        exact fun hmem => (List.mem_cons.mp hmem).elim (Ne.symm hc) ih
      | cons next more =>
        rw [hlater] at ih
        refine ⟨?_, ih.2⟩
        rw [withoutReturn_cons hc]
        exact fun hmem => (List.mem_cons.mp hmem).elim (Ne.symm hc) ih.1
  | case3 => exact List.not_mem_nil

theorem ReturnsLast.outdent {ls ls' : List (List Char)} (h : List.Forall₂ Outdented ls ls')
    (hreturns : ReturnsLast ls) : ReturnsLast ls' := by
  induction h with
  | nil => trivial
  | @cons line line' rest rest' hline hrest ih =>
    cases hrest with
    | nil =>
      obtain ⟨blanks, -, rfl⟩ := hline
      exact fun hmem => hreturns (List.mem_append_right blanks hmem)
    | cons hnext hmore =>
      obtain ⟨blanks, -, heq⟩ := hline.withoutReturn
      refine ⟨fun hmem => hreturns.1 ?_, ih hreturns.2⟩
      rw [heq]
      exact List.mem_append_right blanks hmem

theorem unifyLineEnds_append {part : List Char} (h : '\r' ∉ part) (cs : List Char) :
    unifyLineEnds (part ++ cs) = part ++ unifyLineEnds cs := by
  induction part with
  | nil => rfl
  | cons c part ih =>
    obtain ⟨hc, hpart⟩ := not_or.mp (mt List.mem_cons.mpr h)
    have hc : c ≠ '\r' := Ne.symm hc
    rw [List.cons_append, unifyLineEnds.eq_2 _ _ (fun _ heq => absurd heq hc), if_neg hc, ih hpart]
    rfl

theorem unifyLineEnds_of_notMem {cs : List Char} (h : '\r' ∉ cs) : unifyLineEnds cs = cs := by
  simpa [unifyLineEnds] using unifyLineEnds_append h []

theorem lines_unifyLineEnds {cs : List Char} (h : ReturnsLast (lines cs)) :
    lines (unifyLineEnds cs) = (lines cs).map withoutReturn := by
  induction cs using induction_lines with
  | single line hno =>
    rw [lines_of_notMem hno] at h ⊢
    have hsame : withoutReturn line = line := if_neg fun hlast => h (List.mem_of_getLast? hlast)
    rw [unifyLineEnds_of_notMem h, lines_of_notMem hno, List.map_singleton, hsame]
  | more line rest hno ih =>
    rw [lines_line hno, returnsLast_cons (lines_ne_nil rest)] at h
    have hunified : unifyLineEnds (line ++ '\n' :: rest) =
        withoutReturn line ++ '\n' :: unifyLineEnds rest := by
      rcases eq_withoutReturn line with heq | heq
      · rw [← heq]
        exact unifyLineEnds_append (heq ▸ h.1) _
      · have hsplit : line ++ '\n' :: rest = withoutReturn line ++ '\r' :: '\n' :: rest := by
          rw [heq, List.append_assoc, ← heq]
          rfl
        rw [hsplit]
        exact unifyLineEnds_append h.1 _
    have hno' : '\n' ∉ withoutReturn line := by
      intro hmem
      rcases eq_withoutReturn line with heq | heq
      · exact hno (heq ▸ hmem)
      · exact hno (heq ▸ List.mem_append_left _ hmem)
    rw [hunified, lines_line hno', lines_line hno, ih h.2, List.map_cons]

theorem notMem_unifyLineEnds (cs : List Char) : '\r' ∉ unifyLineEnds cs := by
  fun_induction unifyLineEnds cs with
  | case1 rest ih => simpa using ih
  | case2 c rest hnot ih =>
    rw [List.mem_cons, not_or]
    refine ⟨?_, ih⟩
    split
    · decide
    next hc => exact Ne.symm hc
  | case3 => exact List.not_mem_nil

theorem returnsEndLines_of_notMem {cs : List Char} (h : '\r' ∉ cs) : returnsEndLines cs = true := by
  fun_induction returnsEndLines cs with
  | case1 rest ih => exact absurd List.mem_cons_self h
  | case2 c rest hnot ih =>
    obtain ⟨hc, hrest⟩ := not_or.mp (mt List.mem_cons.mpr h)
    rw [ih hrest, Bool.and_true, bne_iff_ne]
    exact Ne.symm hc
  | case3 => rfl

/-- The lines of a text and those of the text with one way of ending a line are the same without the
carriage returns at their ends. -/
theorem withoutReturn_lines_unifyLineEnds {cs : List Char} (h : returnsEndLines cs = true) :
    (lines (unifyLineEnds cs)).map withoutReturn = (lines cs).map withoutReturn := by
  have hno := notMem_unifyLineEnds cs
  have hagain := lines_unifyLineEnds (returnsLast_of_returnsEndLines (returnsEndLines_of_notMem hno))
  rw [← hagain, unifyLineEnds_of_notMem hno]
  exact lines_unifyLineEnds (returnsLast_of_returnsEndLines h)

/-- The lines of a text, and those of the text at the margin with one way of ending a line. -/
theorem lines_of_returnsEndLines {cs : List Char} (h : returnsEndLines cs = true) :
    List.Forall₂ Outdented ((lines cs).map withoutReturn)
      (lines (unifyLineEnds (withoutMargin cs))) := by
  have houtdented := lines_withoutMargin cs
  have hreturns := (returnsLast_of_returnsEndLines h).outdent houtdented
  rw [lines_unifyLineEnds hreturns, List.forall₂_map_left_iff, List.forall₂_map_right_iff]
  exact houtdented.imp fun _ _ hline => hline.withoutReturn

end SourceConventions.Text
