import SourceConventions.HostMessage
import SourceConventions.Proofs.Analysis.Independence
import SourceConventions.Proofs.Analysis.Suppression
import SourceConventions.Proofs.Files.Snapshot
import SourceConventions.Proofs.Run.FileIndependence

/-!
# What a host linter is told

A host linter is told what the analysis of the same file finds: every finding in its place, under
the number of its rule. It looks for comments in the text as it stands in the file, and takes the
tree of a text whose margin has been kept. So the two agree as long as carriage returns stand at the
ends of lines only and the margin does not show in the tree.
-/

namespace SourceConventions

open Syntax

/-! ### Paths of findings -/

/-- The finding as it is made about another path. -/
def Finding.movedTo (path : String) (f : Finding) : Finding := { f with path := path }

namespace Rules

variable (path path' : String) (facts : Facts)

theorem snakeCase_movedTo :
    snakeCase path' facts = (snakeCase path facts).map (Finding.movedTo path') := by
  rw [snakeCase, snakeCase, List.map_append, List.map_flatMap, List.map_map]
  refine congrArg₂ _ (List.flatMap_congr fun f _ => ?_) rfl
  rw [snakeCaseFunction, snakeCaseFunction, List.map_append, List.map_map]
  refine congrArg₂ _ ?_ rfl
  split <;> rfl

theorem verbPrefix_movedTo :
    verbPrefix path' facts = (verbPrefix path facts).map (Finding.movedTo path') := by
  rw [verbPrefix, verbPrefix, List.map_map]
  rfl

theorem genericName_movedTo (names : List String) (most : Nat) :
    genericName names most path' facts =
      (genericName names most path facts).map (Finding.movedTo path') := by
  rw [genericName, genericName, List.map_map]
  rfl

theorem missingHint_movedTo (publicOnly : Bool) :
    missingHint publicOnly path' facts =
      (missingHint publicOnly path facts).map (Finding.movedTo path') := by
  rw [missingHint, missingHint, List.map_append, List.map_map, List.map_filterMap]
  refine congrArg₂ _ (List.filterMap_congr fun f _ => ?_) rfl
  rw [functionHint, functionHint]
  split <;> rfl

theorem magicNumber_movedTo (allowed : List Numeral) (threshold : Numeral) :
    magicNumber allowed threshold path' facts =
      (magicNumber allowed threshold path facts).map (List.map (Finding.movedTo path')) := by
  have hfinding (l : LiteralFact) :
      magicFinding path' l = (magicFinding path l).map (Finding.movedTo path') := by
    rw [magicFinding, magicFinding]
    split <;> rfl
  rw [magicNumber, magicNumber, ← Traversal.mapM_map_answers]
  exact congrArg (List.mapM · _) (funext hfinding)

end Rules

namespace Analysis

variable {s : Settings} {path : String} {tree : Stmt}

theorem findingsOf_movedTo (path path' : String) (facts : Facts) (r : Rule) :
    findingsOf s path' facts r =
      (findingsOf s path facts r).map (List.map (Finding.movedTo path')) := by
  cases r with
  | snakeCase => exact congrArg Except.ok (Rules.snakeCase_movedTo path path' facts)
  | verbPrefix => exact congrArg Except.ok (Rules.verbPrefix_movedTo path path' facts)
  | genericName => exact congrArg Except.ok (Rules.genericName_movedTo path path' facts _ _)
  | magicNumber => exact Rules.magicNumber_movedTo path path' facts _ _
  | missingHint => exact congrArg Except.ok (Rules.missingHint_movedTo path path' facts _)
  | requiredDirectory | parseError => rfl

/-- Under another path the rules find the same about it. -/
theorem produced_movedTo (s : Settings) (path path' : String) (tree : Stmt) :
    produced s path' tree = (produced s path tree).map (List.map (Finding.movedTo path')) := by
  unfold produced
  cases Facts.ofTree s.verbs [] tree with
  | error f => rfl
  | ok facts =>
    have hrules : s.fileRules.mapM (findingsOf s path' facts) =
        (s.fileRules.mapM (findingsOf s path facts)).map
          (List.map (List.map (Finding.movedTo path'))) := by
      rw [← Traversal.mapM_map_answers]
      exact congrArg (List.mapM · _) (funext (findingsOf_movedTo path path' facts))
    dsimp only [bind, Except.bind]
    rw [hrules]
    cases s.fileRules.mapM (findingsOf s path facts) with
    | error f => rfl
    | ok lists => exact congrArg Except.ok List.map_flatten.symm

theorem produced_congr {kept : Stmt} (h : Facts.ofTree s.verbs [] kept = Facts.ofTree s.verbs [] tree) :
    produced s path kept = produced s path tree := by
  rw [produced, produced, h]

theorem unsuppressed_movedTo (u : Suppressions) (path : String) (fs : List Finding) :
    unsuppressed u (fs.map (Finding.movedTo path)) =
      (unsuppressed u fs).map (Finding.movedTo path) := by
  rw [unsuppressed, List.filter_map]
  rfl

end Analysis

/-! ### Comments in the text of a file -/

namespace SourceFile

/-- A text that is accepted has the same comments whether or not its line ends are made the same. -/
theorem suppressions_unified {text : String} (hreturns : Text.returnsEndLines text.toList = true)
    {stoodFor : List (List Char)} {tree : Stmt}
    (htree : programOf stoodFor (unified text) = .ok tree) :
    Suppressions.ofText (unified text) = Suppressions.ofText text := by
  have hunified : (unified text).toList = Text.unifyLineEnds text.toList := String.toList_ofList
  have hlines : (Text.lines (unified text).toList).map Text.withoutReturn =
      (Text.lines text.toList).map Text.withoutReturn := by
    rw [hunified]
    exact Text.withoutReturn_lines_unifyLineEnds hreturns
  have hreturns' : Text.returnsEndLines (unified text).toList = true := by
    rw [hunified]
    exact Text.returnsEndLines_of_notMem (Text.notMem_unifyLineEnds _)
  have hlayout : Layout.ofText (unified text) = Layout.ofText text := by
    rw [Layout.ofText, Layout.ofText, hlines]
  obtain ⟨typeComments, shown, hread⟩ := readChars_of_programOf htree
  have hcomments := Analysis.readLines_of_readChars hreturns' hread
  obtain ⟨heven', huneven'⟩ := Comment.ofText_of_readLines hreturns' hcomments
  obtain ⟨heven, huneven⟩ := Comment.ofText_of_readLines hreturns (hlines ▸ hcomments)
  rw [hlayout] at heven' huneven'
  unfold Suppressions.ofText Suppressions.read
  by_cases h : (Layout.ofText text).Even
  · rw [heven' h, heven h]
  · obtain ⟨f', hf'⟩ := huneven' h
    obtain ⟨f, hf⟩ := huneven h
    rw [hf', hf]
    rfl

/-- The path of a file shows in what is said about its declaration only. -/
theorem decode_path {path : String} {octets : Octets} {text : String}
    (h : decode path octets = .ok text) (path' : String) : decode path' octets = .ok text := by
  unfold decode at h ⊢
  dsimp only at h ⊢
  split at h
  next => cases h
  next => cases h
  next => exact h

end SourceFile

namespace HostMessage

variable {s : Settings} {path : String} {tree : Stmt} {f : Finding}

theorem ofTree_eq_produced (s : Settings) (path text : String) (tree : Stmt) :
    ofTree s path text tree = (Analysis.produced s path tree).map fun fs =>
      (Analysis.unsuppressed (Suppressions.ofText text) fs).filterMap ofFinding? := by
  unfold ofTree Analysis.produced Analysis.judge
  rw [Analysis.facts_suppressions]
  cases Facts.ofTree s.verbs [] tree with
  | error f => rfl
  | ok facts =>
    dsimp only [bind, Except.bind, Except.map]
    rw [Analysis.findingsOf_suppressions]
    cases s.fileRules.mapM (Analysis.findingsOf s path facts) <;> rfl

/-- A finding of a rule about files has a message, in which its path does not show. -/
theorem exists_ofFinding? {r : Rule} (hr : r ∈ s.fileRules) (hf : f.OfRule r path) :
    ∃ m, ofFinding? f = some m := by
  have hscope := (Analysis.mem_fileRules.mp hr).1
  rw [ofFinding?, hf.rule, Rule.ofId?_id]
  cases r with
  | requiredDirectory | parseError => cases hscope
  | _ => exact ⟨_, rfl⟩

theorem map_some_filterMap {fs : List Finding} (h : ∀ f ∈ fs, ∃ m, ofFinding? f = some m) :
    (fs.filterMap ofFinding?).map some = fs.map ofFinding? := by
  induction fs with
  | nil => rfl
  | cons f rest ih =>
    obtain ⟨⟨m, hm⟩, hrest⟩ := List.forall_mem_cons.mp h
    rw [List.filterMap_cons_some hm, List.map_cons, List.map_cons, ih hrest, hm]

/-- A tree that tells the same facts gives the messages of the findings about an accepted text. -/
theorem ofTree_of_analysis {text file : String} {shown : List (List Char)} {kept : Stmt}
    (hreturns : Text.returnsEndLines text.toList = true)
    (htree : programOf shown (SourceFile.unified text) = .ok tree)
    (hfacts : Facts.ofTree s.verbs [] kept = Facts.ofTree s.verbs [] tree) {r : FileResult}
    (hr : r = (Analysis.ofTree s file (SourceFile.unified text) tree).1) (hparsed : r.parsed = true)
    (path : String) :
    ∃ messages, ofTree s path text kept = .ok messages ∧
      r.findings.map ofFinding? = messages.map some := by
  have hregular : r.Regular s file := hr ▸ Analysis.ofTree_regular s file _ tree
  have hmessage : ∀ f ∈ r.findings, ∃ m, ofFinding? f = some m := by
    cases hregular with
    | judged h =>
      intro f hf
      obtain ⟨rule, hrule, hof⟩ := h f hf
      exact exists_ofFinding? hrule hof
    | faulty => cases hparsed
  rw [Analysis.ofTree_eq_outcome, SourceFile.suppressions_unified hreturns htree] at hr
  cases hproduced : Analysis.produced s file tree with
  | error e =>
    rw [hproduced] at hr
    rw [hr] at hparsed
    cases hparsed
  | ok fs =>
    rw [hproduced] at hr
    have hfindings : r.findings = Analysis.unsuppressed (Suppressions.ofText text) fs := by rw [hr]; rfl
    refine ⟨r.findings.filterMap ofFinding?, ?_, (map_some_filterMap hmessage).symm⟩
    have hmoved : Analysis.produced s path kept = .ok (fs.map (Finding.movedTo path)) := by
      rw [Analysis.produced_congr hfacts, Analysis.produced_movedTo s file path, hproduced]
      rfl
    calc ofTree s path text kept
        = .ok ((Analysis.unsuppressed (Suppressions.ofText text)
            (fs.map (Finding.movedTo path))).filterMap ofFinding?) := by
          rw [ofTree_eq_produced, hmoved]
          rfl
      _ = .ok (r.findings.filterMap ofFinding?) := by
          rw [Analysis.unsuppressed_movedTo, List.filterMap_map, hfindings]
          rfl

variable {t : FileTree} {root file : String} {octets : Octets} {text : String} {r : FileResult}
  {logs : List LogEntry}

theorem read_of_octets (hfile : t.octets file = .ok octets)
    (hdecode : SourceFile.decode path octets = .ok text) :
    SourceFile.read t file = .ok (SourceFile.unified text) := by
  rw [SourceFile.read, hfile]
  exact congrArg (Except.map SourceFile.unified) (SourceFile.decode_path hdecode file)

/-- A run analyses the text that it reads in a file. -/
theorem analyze_of_octets (hfile : t.octets (SourceFile.pathBelow root file) = .ok octets)
    (hdecode : SourceFile.decode path octets = .ok text)
    (hresult : Run.analyze s t root file = .result r logs) :
    r = (Analysis.ofText s file (SourceFile.namesakeLines t file) (SourceFile.unified text)).1 := by
  rw [Run.analyze_of_text (read_of_octets hfile hdecode)] at hresult
  cases hname : Path.moduleName? file with
  | error f => rw [hname] at hresult; cases hresult
  | ok name =>
    rw [hname, Run.Outcome.result.injEq] at hresult
    exact hresult.1.symm

theorem ofFile_of_octets (hpath : t.octets path = .ok octets)
    (hdecode : SourceFile.decode path octets = .ok text)
    (hkept : programOfChars (SourceFile.namesakeLines t path) (SourceFile.unified text).toList =
      .ok tree) :
    ofFile s t path = .ok (ofTree s path text tree) := by
  unfold ofFile
  simp only [hpath, hdecode, hkept, Except.mapError, bind, Except.bind]
  rfl

/-! ### A project with one file -/

/-- A project with one file. -/
def oneFile (octets : Octets) : FileTree := Run.projectOf [("a.py", .file octets)]

theorem octets_oneFile (octets : Octets) :
    (oneFile octets).octets (SourceFile.pathBelow "/p" "a.py") = .ok octets ∧
      (oneFile octets).octets "/p/a.py" = .ok octets := by
  have hbelow : SourceFile.pathBelow "/p" "a.py" = "/p/a.py" := by decide
  have hoctets : (oneFile octets).octets (SourceFile.pathBelow "/p" "a.py") = .ok octets :=
    Run.octets_projectOf (by decide) (by decide) rfl
  exact ⟨hoctets, hbelow ▸ hoctets⟩

theorem namesakeLines_oneFile (octets : Octets) :
    SourceFile.namesakeLines (oneFile octets) "a.py" = [] ∧
      SourceFile.namesakeLines (oneFile octets) "/p/a.py" = [] := by
  have hname : Path.moduleName? "a.py" = .ok "a" := by decide
  have hname' : Path.moduleName? "/p/a.py" = .ok "/.p.a" := by decide
  have hsteps : FileTree.steps "/.p.a" = [".p.a"] := by decide
  have hmissing : (oneFile octets).octets "/.p.a" = .error .missing :=
    FileTree.octets_of_absent hsteps (by decide) (by decide) (by decide) rfl rfl
  exact ⟨Run.namesakeLines_projectOf hname (by decide) (by decide) rfl,
    Run.namesakeLines_of_missing hname' hmissing⟩

theorem analyze_oneFile (hdecode : SourceFile.decode "/p/a.py" octets = .ok text) (s : Settings) :
    ∃ r logs, Run.analyze s (oneFile octets) "/p" "a.py" = .result r logs ∧
      r = (Analysis.ofText s "a.py" [] (SourceFile.unified text)).1 := by
  have hname : Path.moduleName? "a.py" = .ok "a" := by decide
  have hread := read_of_octets (octets_oneFile octets).1 hdecode
  rcases Run.analyze_result_or_mishap s hname with ⟨m, hm, -⟩ | ⟨-, r, logs, hr⟩
  · cases hread.symm.trans hm
  · have heq := analyze_of_octets (octets_oneFile octets).1 hdecode hr
    rw [(namesakeLines_oneFile octets).1] at heq
    exact ⟨r, logs, hr, heq⟩

/-! ### Both readers -/

/-- A host linter is told what a run finds in a file that both read, if carriage returns stand at the
ends of its lines only and the tree with the margin of the text tells the same facts as the one
without. -/
theorem ofFile_agrees_with_analyze (hpath : t.octets path = .ok octets)
    (hfile : t.octets (SourceFile.pathBelow root file) = .ok octets)
    (hdecode : SourceFile.decode path octets = .ok text)
    (hreturns : Text.returnsEndLines text.toList = true) {kept : Stmt}
    (hkept : programOfChars (SourceFile.namesakeLines t path) (SourceFile.unified text).toList =
      .ok kept)
    (htree : programOf (SourceFile.namesakeLines t file) (SourceFile.unified text) = .ok tree)
    (hfacts : Facts.ofTree s.verbs [] kept = Facts.ofTree s.verbs [] tree)
    (hresult : Run.analyze s t root file = .result r logs) (hparsed : r.parsed = true) :
    ∃ messages, ofFile s t path = .ok (.ok messages) ∧
      r.findings.map ofFinding? = messages.map some := by
  have hr := analyze_of_octets hfile hdecode hresult
  rw [Analysis.ofText, htree] at hr
  obtain ⟨messages, hmessages, hall⟩ := ofTree_of_analysis hreturns htree hfacts hr hparsed path
  exact ⟨messages, hmessages ▸ ofFile_of_octets hpath hdecode hkept, hall⟩

/-- The octets of a file whose line ends in a carriage return and a line feed. -/
def returnFile : Octets := [0x78, 0x20, 0x3d, 0x20, 0x31, 0x0d, 0x0a]

theorem messages_of_returnFile :
    ∃ r logs messages,
      Run.analyze Run.twoFiles.settings (oneFile returnFile) "/p" "a.py" = .result r logs ∧
        ofFile Run.twoFiles.settings (oneFile returnFile) "/p/a.py" = .ok (.ok messages) ∧
        r.findings.map ofFinding? = messages.map some ∧ messages.length = 1 := by
  have hdecode : SourceFile.decode "/p/a.py" returnFile = .ok "x = 1\r\n" := rfl
  have hunified : SourceFile.unified "x = 1\r\n" = "x = 1\n" := by decide
  have hjudged : (Analysis.ofText Run.twoFiles.settings "a.py" [] "x = 1\n").1.parsed = true ∧
      (Analysis.ofText Run.twoFiles.settings "a.py" [] "x = 1\n").1.findings.length = 1 := by
    decide +kernel
  obtain ⟨r, logs, hresult, hr⟩ := analyze_oneFile hdecode Run.twoFiles.settings
  rw [hunified] at hr
  obtain ⟨hshown, hshown'⟩ := namesakeLines_oneFile returnFile
  cases htree : programOf [] "x = 1\n" with
  | error e =>
    rw [Analysis.ofText, htree] at hjudged
    exact absurd hjudged.1 Bool.false_ne_true
  | ok tree =>
    have hkept := htree
    rw [programOf, show Text.withoutMargin "x = 1\n".toList = "x = 1\n".toList by decide] at hkept
    obtain ⟨messages, hmessages, hall⟩ := ofFile_agrees_with_analyze
      (octets_oneFile _).2 (octets_oneFile _).1 hdecode (by decide)
      (by rw [hshown', hunified]; exact hkept) (by rw [hshown, hunified]; exact htree) rfl hresult
      (hr ▸ hjudged.1)
    refine ⟨r, logs, messages, hresult, hmessages, hall, ?_⟩
    rw [← List.length_map some, ← hall, List.length_map, hr]
    exact hjudged.2

/-- The octets of a file in which a carriage return stands between a statement and a comment that
turns everything off. -/
def loneReturnFile : Octets :=
  [0x78, 0x3d, 0x31, 0x0d, 0x23, 0x63, 0x6f, 0x6e, 0x76, 0x65, 0x6e, 0x74, 0x69, 0x6f, 0x6e,
    0x73, 0x3a, 0x64, 0x69, 0x73, 0x61, 0x62, 0x6c, 0x65, 0x3d, 0x61, 0x6c, 0x6c, 0x0a]

/-- A carriage return within a line keeps a host linter from being told what a run finds. -/
theorem messages_of_loneReturnFile :
    ∃ r logs, Run.analyze Run.twoFiles.settings (oneFile loneReturnFile) "/p" "a.py" =
        .result r logs ∧ r.parsed = true ∧ r.findings.length = 1 ∧
      ofFile Run.twoFiles.settings (oneFile loneReturnFile) "/p/a.py" = .ok (.ok []) := by
  have hdecode : SourceFile.decode "/p/a.py" loneReturnFile =
      .ok "x=1\r#conventions:disable=all\n" := rfl
  have hunified : SourceFile.unified "x=1\r#conventions:disable=all\n" =
      "x=1\n#conventions:disable=all\n" := by decide
  have hjudged : (Analysis.ofText Run.twoFiles.settings "a.py" []
      "x=1\n#conventions:disable=all\n").1.parsed = true ∧
      (Analysis.ofText Run.twoFiles.settings "a.py" []
        "x=1\n#conventions:disable=all\n").1.findings.length = 1 := by
    decide +kernel
  have htold : (programOfChars [] "x=1\n#conventions:disable=all\n".toList).toOption.bind
      (fun tree => (ofTree Run.twoFiles.settings "/p/a.py" "x=1\r#conventions:disable=all\n"
        tree).toOption) = some [] := by
    decide +kernel
  obtain ⟨r, logs, hresult, hr⟩ := analyze_oneFile hdecode Run.twoFiles.settings
  rw [hunified] at hr
  refine ⟨r, logs, hresult, hr ▸ hjudged.1, hr ▸ hjudged.2, ?_⟩
  cases hkept : programOfChars [] "x=1\n#conventions:disable=all\n".toList with
  | error e =>
    rw [hkept] at htold
    cases htold
  | ok tree =>
    have hread := ofFile_of_octets (s := Run.twoFiles.settings) (octets_oneFile loneReturnFile).2 hdecode
      (by rw [(namesakeLines_oneFile _).2, hunified]; exact hkept)
    rw [hkept, Except.toOption, Option.bind_some] at htold
    cases hmessages : ofTree Run.twoFiles.settings "/p/a.py" "x=1\r#conventions:disable=all\n" tree with
    | error e =>
      rw [hmessages] at htold
      cases htold
    | ok messages =>
      rw [hmessages] at htold
      cases htold
      exact hread.trans (congrArg Except.ok hmessages)

/-- A host linter is told what a run finds in a file that the run accepts, if carriage returns stand
at the ends of its lines only, one of its lines starts at the margin and lines of blanks are
empty. -/
theorem ofFile_of_atMargin (hpath : t.octets path = .ok octets)
    (hfile : t.octets (SourceFile.pathBelow root file) = .ok octets)
    (hdecode : SourceFile.decode path octets = .ok text)
    (hreturns : Text.returnsEndLines text.toList = true)
    (hblank : ∀ line ∈ Text.lines (SourceFile.unified text).toList,
      line.all Text.isMarginChar = true → line = [])
    {c : Char} {rest : List Char} (hline : c :: rest ∈ Text.lines (SourceFile.unified text).toList)
    (hc : Text.isMarginChar c = false)
    (hshown : SourceFile.namesakeLines t path = SourceFile.namesakeLines t file)
    (hresult : Run.analyze s t root file = .result r logs) (hparsed : r.parsed = true) :
    ∃ messages, ofFile s t path = .ok (.ok messages) ∧
      r.findings.map ofFinding? = messages.map some := by
  have hr := analyze_of_octets hfile hdecode hresult
  cases htree : programOf (SourceFile.namesakeLines t file) (SourceFile.unified text) with
  | error e =>
    rw [Analysis.ofText, htree] at hr
    rw [hr] at hparsed
    cases hparsed
  | ok tree =>
    have hkept := htree
    rw [programOf, Text.withoutMargin_eq_self hblank hline hc, ← hshown] at hkept
    rw [Analysis.ofText, htree] at hr
    obtain ⟨messages, hmessages, hall⟩ := ofTree_of_analysis hreturns htree rfl hr hparsed path
    exact ⟨messages, hmessages ▸ ofFile_of_octets hpath hdecode hkept, hall⟩

end HostMessage

end SourceConventions
