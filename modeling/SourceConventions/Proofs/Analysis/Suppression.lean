import SourceConventions.Proofs.Analysis.Result
import SourceConventions.Proofs.Comments.Lexed
import SourceConventions.Proofs.Comments.Scanned
import SourceConventions.Proofs.Facts.Suppression
import SourceConventions.Settings.OfTable

/-!
# What comments take away

The findings of an accepted text are those that the rules produce, without those that a comment of
their line turns off. The comments are those between the tokens from which the tree is read, with
the lines that the tree has. They count as long as the statements of the text start at even columns
and its last line is not joined to one that is missing; otherwise nothing is turned off.
-/

namespace SourceConventions

open Syntax

namespace Analysis

/-- The findings that comments leave. -/
def leftBy (comments : List Comment) (fs : List Finding) : List Finding :=
  fs.filter fun f => ¬ ∃ c ∈ comments, c.TurnsOff f

/-- What the rules that are on find in a tree, whatever is turned off. -/
def produced (s : Settings) (path : String) (tree : Stmt) : Except AnalysisFault (List Finding) := do
  let facts ← Facts.ofTree s.verbs [] tree
  return (← s.fileRules.mapM (findingsOf s path facts)).flatten

/-- The result that findings make, or that takes their place if there are none for a fault. -/
def outcome (path : String) : Except AnalysisFault (List Finding) → FileResult
  | .ok fs => ⟨path, fs, true⟩
  | .error f => (internalFault path f.text).result

variable {s : Settings} {path text : String} {stoodFor : List (List Char)} {tree : Stmt}

theorem unsuppressed_ofComments (comments : List Comment) (fs : List Finding) :
    unsuppressed (Suppressions.ofComments comments) fs = leftBy comments fs := by
  refine List.filter_congr fun f _ => ?_
  have hturns : (Suppressions.ofComments comments).turnsOff f.line f.rule =
      decide (∃ c ∈ comments, c.TurnsOff f) :=
    Bool.eq_iff_iff.mpr (Suppressions.turnsOff_ofComments.trans decide_eq_true_iff.symm)
  rw [hturns, decide_not]

/-- What is turned off does not bear on what is found. -/
theorem findingsOf_suppressions (s : Settings) (path : String) (facts : Facts) (u : Suppressions) :
    findingsOf s path { facts with suppressions := u } = findingsOf s path facts := by
  funext r
  cases r <;> rfl

theorem facts_suppressions (verbs : List String) (u : Suppressions) (tree : Stmt) :
    Facts.ofTree verbs u tree = (Facts.ofTree verbs [] tree).map ({ · with suppressions := u }) := by
  unfold Facts.ofTree
  dsimp only [bind, Except.bind]
  split
  · rfl
  · split <;> rfl

theorem ofTree_eq_outcome (s : Settings) (path text : String) (tree : Stmt) :
    (ofTree s path text tree).1 =
      outcome path ((produced s path tree).map (unsuppressed (Suppressions.ofText text))) := by
  unfold ofTree produced judge
  rw [facts_suppressions]
  cases Facts.ofTree s.verbs [] tree with
  | error f => rfl
  | ok facts =>
    dsimp only [bind, Except.bind, Except.map]
    rw [findingsOf_suppressions]
    cases s.fileRules.mapM (findingsOf s path facts) with
    | error f => rfl
    | ok lists => rfl

theorem unsuppressed_nil (fs : List Finding) : unsuppressed [] fs = fs :=
  List.filter_eq_self.mpr fun f _ => by simp [Suppressions.turnsOff, Suppressions.on]

/-- The lines of a text as it is written are read as those of its program are. -/
theorem readLines_of_readChars {typeComments : Bool} {shown : List (List Char)}
    (hreturns : Text.returnsEndLines text.toList = true)
    (h : readChars typeComments shown (programChars text) = .ok tree) :
    readLines 1 .code ((Text.lines text.toList).map Text.withoutReturn) =
      some ⟨Tokens.comments typeComments ⟨1, 0⟩ (programChars text), 0⟩ := by
  rw [← readFrom_of_readChars h, programChars, readFrom_append_newline, readFrom]
  exact readLines_outdented (Text.lines_of_returnsEndLines hreturns) 1 .code

/-- The result for a text that is accepted, and in which carriage returns stand in front of line
feeds only: what the rules produce without what the comments between the tokens turn off, if the
layout of the text is even, and all that the rules produce otherwise. -/
theorem result_of_accepted (hreturns : Text.returnsEndLines text.toList = true)
    (htree : programOf stoodFor text = .ok tree) (s : Settings) (path : String) :
    ∃ typeComments shown, readChars typeComments shown (programChars text) = .ok tree ∧
      ((Layout.ofText text).Even → (ofText s path stoodFor text).1 =
        outcome path ((produced s path tree).map
          (leftBy (Tokens.comments typeComments ⟨1, 0⟩ (programChars text))))) ∧
      (¬ (Layout.ofText text).Even →
        (ofText s path stoodFor text).1 = outcome path (produced s path tree)) := by
  obtain ⟨typeComments, shown, hread⟩ := readChars_of_programOf htree
  refine ⟨typeComments, shown, hread, ?_⟩
  have hresult : (ofText s path stoodFor text).1 =
      outcome path ((produced s path tree).map (unsuppressed (Suppressions.ofText text))) := by
    rw [ofText, htree]
    exact ofTree_eq_outcome s path text tree
  obtain ⟨heven, huneven⟩ := Comment.ofText_of_readLines hreturns (readLines_of_readChars hreturns hread)
  constructor
  · intro h
    have hsuppressions : Suppressions.ofText text = Suppressions.ofComments
        (Tokens.comments typeComments ⟨1, 0⟩ (programChars text)) := by
      rw [Suppressions.ofText, Suppressions.read, heven h]
      rfl
    rw [hresult, hsuppressions, funext (unsuppressed_ofComments _)]
  · intro h
    obtain ⟨f, hf⟩ := huneven h
    have hsuppressions : Suppressions.ofText text = [] := by
      rw [Suppressions.ofText, Suppressions.read, hf]
      rfl
    rw [hresult, hsuppressions, funext unsuppressed_nil]
    cases produced s path tree <;> rfl

/-- A text with a comment on one of its two lines. -/
def twoStatements : String := "x = 1  # conventions: disable=all\ny = 2\n"

theorem result_of_twoStatements :
    ∃ tree typeComments shown, programOf [] twoStatements = .ok tree ∧
      readChars typeComments shown (programChars twoStatements) = .ok tree ∧
      (ofText Settings.defaults "mod.py" [] twoStatements).1 =
        outcome "mod.py" ((produced Settings.defaults "mod.py" tree).map
          (leftBy (Tokens.comments typeComments ⟨1, 0⟩ (programChars twoStatements)))) := by
  cases htree : programOf [] twoStatements with
  | error r =>
    have hok : (programOf [] twoStatements).toBool = true := by decide +kernel
    rw [htree] at hok
    cases hok
  | ok tree =>
    obtain ⟨typeComments, shown, hread, heven, -⟩ :=
      result_of_accepted (by decide) htree Settings.defaults "mod.py"
    refine ⟨tree, typeComments, shown, rfl, hread, heven ⟨?_, by decide +kernel⟩⟩
    have hstarts : (Layout.ofText twoStatements).starts = [(1, 0), (2, 0)] := by decide +kernel
    rw [hstarts]
    exact (leap?_eq_none_iff open_nil not_uneven_nil).mp rfl

/-- A text with a comment, the last line of which is joined to one that is missing. -/
def joinedAtEnd : String := "y = 2 # conventions: disable=all\nx: int = 1 \\\n"

/-- A comment of a line does not turn a finding off where the last line of the text is joined to one
that is missing. -/
theorem finding_of_joinedAtEnd :
    ∃ tree fs f, programOf [] joinedAtEnd = .ok tree ∧
      produced Settings.defaults "mod.py" tree = .ok fs ∧ f ∈ fs ∧
      (∀ typeComments, ∃ c ∈ Tokens.comments typeComments ⟨1, 0⟩ (programChars joinedAtEnd),
        c.TurnsOff f) ∧
      f ∈ (ofText Settings.defaults "mod.py" [] joinedAtEnd).1.findings := by
  have hproduced : (programOf [] joinedAtEnd).toOption.bind
      (fun tree => (produced Settings.defaults "mod.py" tree).toOption) =
        some (ofText Settings.defaults "mod.py" [] joinedAtEnd).1.findings := by decide +kernel
  have hturns : ∀ f ∈ (ofText Settings.defaults "mod.py" [] joinedAtEnd).1.findings,
      ∀ typeComments, ∃ c ∈ Tokens.comments typeComments ⟨1, 0⟩ (programChars joinedAtEnd),
        c.TurnsOff f := by decide +kernel
  have hsome : (ofText Settings.defaults "mod.py" [] joinedAtEnd).1.findings ≠ [] := by
    decide +kernel
  generalize (ofText Settings.defaults "mod.py" [] joinedAtEnd).1.findings = fs at *
  obtain ⟨f, hf⟩ := List.exists_mem_of_ne_nil fs hsome
  obtain ⟨tree, htree, hfs⟩ := Option.bind_eq_some_iff.mp hproduced
  refine ⟨tree, fs, f, ?_, ?_, hf, hturns f hf, hf⟩
  · cases hok : programOf [] joinedAtEnd with
    | error r => rw [hok] at htree; cases htree
    | ok tree' => rw [hok] at htree; cases htree; rfl
  · cases hok : produced Settings.defaults "mod.py" tree with
    | error r => rw [hok] at hfs; cases hfs
    | ok found => rw [hok] at hfs; cases hfs; rfl

end Analysis

end SourceConventions
