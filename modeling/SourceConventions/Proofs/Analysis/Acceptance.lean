import SourceConventions.Proofs.Analysis.Suppression
import SourceConventions.Proofs.Syntax.Indented

/-!
# Texts that are refused

A text is refused if it is no program once its margin is taken away. That decides the same as the
text itself does where a line starts at the margin. It does not where an indent comes first: such a
text is no program, but it is judged as the program that it may become without its margin.
-/

namespace SourceConventions

/-- A file with one finding, which says that it could not be read. -/
def FileResult.IsParseError (r : FileResult) : Prop :=
  r.parsed = false ∧ ∃ f, r.findings = [f] ∧ f.rule = Rule.parseError.id

theorem FileResult.isParseError_of_fault (f : ParseFault) : f.result.IsParseError :=
  ⟨rfl, f.finding, rfl, rfl⟩

theorem FileResult.not_isParseError {r : FileResult} (h : r.parsed = true) : ¬ r.IsParseError :=
  fun hr => Bool.false_ne_true (hr.1.symm.trans h)

namespace Syntax

/-- Whether the characters of a text are a program as they stand. -/
def IsProgram (stoodFor : List (List Char)) (cs : List Char) : Prop :=
  ∃ tree, programOfChars stoodFor cs = .ok tree

theorem not_isProgram_of_indentsFirst (stoodFor : List (List Char)) {cs : List Char}
    (h : indentsFirst (Text.lines (Text.unifyLineEnds cs)) = true) : ¬ IsProgram stoodFor cs :=
  fun ⟨tree, htree⟩ => programOfChars_ne_ok stoodFor h tree htree

end Syntax

open Syntax

namespace Analysis

/-- The rules that are on come to an end on the tree of a text, if it has one. -/
def Evaluates (s : Settings) (path : String) (stoodFor : List (List Char)) (text : String) : Prop :=
  ∀ tree, programOf stoodFor text = .ok tree → ∃ fs, produced s path tree = .ok fs

variable {s : Settings} {path text : String} {stoodFor : List (List Char)}

theorem isParseError_of_refused {r : Refusal} (h : programOf stoodFor text = .error r) :
    (ofText s path stoodFor text).1.IsParseError := by
  rw [ofText, h]
  exact FileResult.isParseError_of_fault _

theorem not_isParseError_of_accepted {tree : Stmt} (h : programOf stoodFor text = .ok tree)
    {fs : List Finding} (hfs : produced s path tree = .ok fs) :
    ¬ (ofText s path stoodFor text).1.IsParseError := by
  refine FileResult.not_isParseError ?_
  rw [ofText, h]
  dsimp only
  rw [ofTree_eq_outcome, hfs]
  rfl

/-- A text that the rules can judge is refused exactly if it is no program without its margin. That
is whether it is a program as it stands if it stands at the margin; if an indent comes first it is
none as it stands, whether or not its comments declare types. -/
theorem isParseError_iff_not_isProgram (h : Evaluates s path stoodFor text) :
    ((ofText s path stoodFor text).1.IsParseError ↔
        ¬ IsProgram stoodFor (Text.withoutMargin text.toList)) ∧
      (Text.AtMargin text.toList →
        ((ofText s path stoodFor text).1.IsParseError ↔ ¬ IsProgram stoodFor text.toList)) ∧
      (indentsFirst (Text.lines (Text.unifyLineEnds text.toList)) = true →
        ¬ IsProgram stoodFor text.toList ∧ ∀ typeComments shown tree,
          readChars typeComments shown (Text.unifyLineEnds text.toList) ≠ .ok tree) := by
  have hiff : (ofText s path stoodFor text).1.IsParseError ↔
      ¬ IsProgram stoodFor (Text.withoutMargin text.toList) := by
    constructor
    · rintro herror ⟨tree, htree⟩
      obtain ⟨fs, hfs⟩ := h tree htree
      exact not_isParseError_of_accepted htree hfs herror
    · intro hnone
      cases htree : programOf stoodFor text with
      | error r => exact isParseError_of_refused htree
      | ok tree => exact absurd ⟨tree, htree⟩ hnone
  refine ⟨hiff, fun hmargin => ?_, fun hindents => ⟨not_isProgram_of_indentsFirst stoodFor hindents,
    fun typeComments shown tree => readChars_ne_ok typeComments shown hindents tree⟩⟩
  rwa [hmargin.withoutMargin_eq] at hiff

/-- A statement in front of which stand blanks. -/
def indentedStatement : String := "  x: int = 1\n"

theorem indentedStatement_accepted :
    Evaluates Settings.defaults "mod.py" [] indentedStatement ∧
      ¬ (ofText Settings.defaults "mod.py" [] indentedStatement).1.IsParseError ∧
      ¬ IsProgram [] indentedStatement.toList := by
  have hproduced : ((programOf [] indentedStatement).toOption.bind
      fun tree => (produced Settings.defaults "mod.py" tree).toOption).isSome = true := by
    decide +kernel
  obtain ⟨fs, hfs⟩ := Option.isSome_iff_exists.mp hproduced
  obtain ⟨tree, htree, hfs⟩ := Option.bind_eq_some_iff.mp hfs
  have hok := Traversal.eq_ok_of_toOption htree
  have hevaluates : Evaluates Settings.defaults "mod.py" [] indentedStatement := by
    intro tree' htree'
    cases hok.symm.trans htree'
    exact ⟨fs, Traversal.eq_ok_of_toOption hfs⟩
  obtain ⟨hiff, -, hindents⟩ := isParseError_iff_not_isProgram hevaluates
  exact ⟨hevaluates, hiff.not.mpr (not_not.mpr ⟨tree, hok⟩), (hindents (by decide)).1⟩

/-- A text whose lines are all indented is read as the text is. -/
theorem programOf_indented {blanks : List Char} (h : ∀ c ∈ blanks, Text.isMarginChar c = true)
    (stoodFor : List (List Char)) (text : String) :
    programOf stoodFor (String.ofList (Text.indented blanks text.toList)) =
      programOf stoodFor text := by
  rw [programOf, programOf, String.toList_ofList, Text.withoutMargin_indented h]

/-- A program that the rules can judge is accepted with all its lines indented as well. It is none
then, if its first line starts with something else than a comment. -/
theorem indented_accepted {blanks : List Char} (h : ∀ c ∈ blanks, Text.isMarginChar c = true)
    (hne : blanks ≠ []) {tree : Stmt} (htree : programOf stoodFor text = .ok tree)
    {fs : List Finding} (hfs : produced s path tree = .ok fs) {c : Char} {rest : List Char}
    (hfirst : text.toList = c :: rest) (hc : Text.isMarginChar c = false)
    (hplain : c ∉ ['\n', '\r', '#', '\x0c', '\\']) :
    ¬ (ofText s path stoodFor (String.ofList (Text.indented blanks text.toList))).1.IsParseError ∧
      ¬ IsProgram stoodFor (Text.indented blanks text.toList) := by
  constructor
  · exact not_isParseError_of_accepted ((programOf_indented h stoodFor text).trans htree) hfs
  · have hnew : c ≠ '\n' := fun heq => hplain (by simp [heq])
    have hlines : Text.lines (c :: rest) = (c :: Text.firstLine rest) :: Text.laterLines rest :=
      Text.lines_append (p := [c]) (by simpa using Ne.symm hnew) rest
    have hall : ¬ (c :: Text.firstLine rest).all Text.isMarginChar = true := by simp [hc]
    obtain ⟨more, hmore⟩ : ∃ more, Text.indented blanks text.toList = blanks ++ c :: more := by
      rw [hfirst, Text.indented, hlines, List.map_cons, if_neg hall]
      cases Text.laterLines rest with
      | nil => exact ⟨Text.firstLine rest, List.intercalate_singleton⟩
      | cons next later =>
        rw [List.map_cons, List.intercalate_cons_cons, List.append_assoc, List.append_assoc]
        exact ⟨_, rfl⟩
    rw [hmore]
    exact not_isProgram_of_indentsFirst stoodFor (indentsFirst_of_blanks h hne hc hplain more)

end Analysis

end SourceConventions
