import SourceConventions.Proofs.Rules.Shape
import SourceConventions.Run.Task

/-!
# What comes of the analysis of a file

A file has either the findings of the rules that are on or one finding that says why it has none.
-/

namespace SourceConventions

/-- The result for the file at a path: findings of rules that are on, or one fault. -/
inductive FileResult.Regular (s : Settings) (path : String) : FileResult → Prop where
  | judged {fs : List Finding} (h : ∀ f ∈ fs, ∃ r ∈ s.fileRules, f.OfRule r path) :
      Regular s path ⟨path, fs, true⟩
  | faulty {f : ParseFault} (h : f.path = path) : Regular s path f.result

namespace FileResult.Regular

variable {s : Settings} {path : String} {r : FileResult}

theorem path_eq (h : r.Regular s path) : r.path = path := by
  cases h with
  | judged => rfl
  | faulty h => exact h

theorem ofSomeRule (h : r.Regular s path) {f : Finding} (hf : f ∈ r.findings) : f.OfSomeRule := by
  cases h with
  | judged h =>
    obtain ⟨rule, -, hrule⟩ := h f hf
    exact ⟨rule, path, hrule⟩
  | faulty h =>
    obtain rfl := List.mem_singleton.mp hf
    exact ⟨.parseError, _, ParseFault.finding_ofRule _⟩

end FileResult.Regular

namespace Analysis

variable {s : Settings} {path : String} {facts : Facts}

theorem findingsOf_ofRule {r : Rule} {fs : List Finding} (h : findingsOf s path facts r = .ok fs)
    {f : Finding} (hf : f ∈ fs) : f.OfRule r path := by
  cases r with
  | snakeCase => cases h; exact Rules.snakeCase_ofRule hf
  | verbPrefix => cases h; exact Rules.verbPrefix_ofRule hf
  | genericName => cases h; exact Rules.genericName_ofRule hf
  | magicNumber => exact Rules.magicNumber_ofRule h hf
  | missingHint => cases h; exact Rules.missingHint_ofRule hf
  | requiredDirectory => cases h; cases hf
  | parseError => cases h; cases hf

theorem judge_eq_ok_iff {fs : List Finding} :
    judge s path facts = .ok fs ↔
      ∃ lists, s.fileRules.mapM (findingsOf s path facts) = .ok lists ∧
        fs = unsuppressed facts.suppressions lists.flatten := by
  rw [judge]
  cases s.fileRules.mapM (findingsOf s path facts) with
  | error e => simp [bind, Except.bind]
  | ok lists => simp [bind, Except.bind, pure, Except.pure, eq_comm]

theorem judge_ofRule {fs : List Finding} (h : judge s path facts = .ok fs) {f : Finding}
    (hf : f ∈ fs) : ∃ r ∈ s.fileRules, f.OfRule r path := by
  obtain ⟨lists, hlists, rfl⟩ := judge_eq_ok_iff.mp h
  obtain ⟨l, hl, hfl⟩ := List.mem_flatten.mp (List.mem_filter.mp hf).1
  obtain ⟨r, hr, hrl⟩ := Traversal.exists_of_mem_answers hlists hl
  exact ⟨r, hr, findingsOf_ofRule hrl hfl⟩

theorem ofTree_regular (s : Settings) (path text : String) (tree : Syntax.Stmt) :
    (ofTree s path text tree).1.Regular s path := by
  rw [ofTree]
  split
  · exact .faulty rfl
  · split
    · exact .faulty rfl
    next h => exact .judged fun f hf => judge_ofRule h hf

theorem ofText_regular (s : Settings) (path : String) (stoodFor : List (List Char)) (text : String) :
    (ofText s path stoodFor text).1.Regular s path := by
  rw [ofText]
  split
  · exact .faulty rfl
  · exact ofTree_regular s path text _

theorem named?_eq (s : Settings) (path : String) (stoodFor : List (List Char)) (text : String) :
    named? s path stoodFor text =
      (Path.moduleName? path).map fun _ => ofText s path stoodFor text := by
  rw [named?]
  cases Path.moduleName? path <;> rfl

end Analysis

namespace Run

variable {s : Settings} {t : FileTree} {root path : String}

theorem analyze_of_fault {f : SourceFault}
    (h : SourceFile.read t (SourceFile.pathBelow root path) = .error (.fault f)) :
    analyze s t root path =
      .result (ParseFault.result ⟨path, 0, f.text⟩) [Analysis.parseLog ⟨path, 0, f.text⟩] := by
  unfold analyze
  rw [h]
  rfl

theorem analyze_of_mishap {m : Mishap}
    (h : SourceFile.read t (SourceFile.pathBelow root path) = .error (.mishap m)) :
    analyze s t root path = .mishap m := by
  unfold analyze
  rw [h]

theorem analyze_of_text {text : String}
    (h : SourceFile.read t (SourceFile.pathBelow root path) = .ok text) :
    analyze s t root path =
      match Path.moduleName? path with
      | .error f => .mishap (.nameless f)
      | .ok _ =>
        .result (Analysis.ofText s path (SourceFile.namesakeLines t path) text).1
          (Analysis.ofText s path (SourceFile.namesakeLines t path) text).2 := by
  unfold analyze
  rw [h]
  dsimp only
  rw [Analysis.named?_eq]
  generalize Analysis.ofText s path (SourceFile.namesakeLines t path) text = r
  cases Path.moduleName? path <;> rfl

/-- Only what is not foreseen in the reading of a file keeps the analysis from a result. -/
theorem analyze_result_or_mishap (s : Settings) {name : String}
    (hname : Path.moduleName? path = .ok name) :
    (∃ m, SourceFile.read t (SourceFile.pathBelow root path) = .error (.mishap m) ∧
        analyze s t root path = .mishap m) ∨
      (∀ m, SourceFile.read t (SourceFile.pathBelow root path) ≠ .error (.mishap m)) ∧
        ∃ r logs, analyze s t root path = .result r logs := by
  cases hread : SourceFile.read t (SourceFile.pathBelow root path) with
  | error e =>
    cases e with
    | fault f => exact .inr ⟨nofun, _, _, analyze_of_fault hread⟩
    | mishap m => exact .inl ⟨m, rfl, analyze_of_mishap hread⟩
  | ok text =>
    refine .inr ⟨nofun, ?_⟩
    rw [analyze_of_text hread, hname]
    exact ⟨_, _, rfl⟩

theorem analyze_ne_interrupted (s : Settings) (t : FileTree) (root path : String) :
    analyze s t root path ≠ .interrupted := by
  cases hread : SourceFile.read t (SourceFile.pathBelow root path) with
  | error e =>
    cases e with
    | fault f => rw [analyze_of_fault hread]; exact Outcome.noConfusion
    | mishap m => rw [analyze_of_mishap hread]; exact Outcome.noConfusion
  | ok text =>
    rw [analyze_of_text hread]
    cases Path.moduleName? path <;> exact Outcome.noConfusion

theorem analyze_regular {r : FileResult} {logs : List LogEntry}
    (h : analyze s t root path = .result r logs) : r.Regular s path := by
  cases hread : SourceFile.read t (SourceFile.pathBelow root path) with
  | error e =>
    cases e with
    | fault f =>
      rw [analyze_of_fault hread, Outcome.result.injEq] at h
      rw [← h.1]
      exact .faulty rfl
    | mishap m => rw [analyze_of_mishap hread] at h; cases h
  | ok text =>
    rw [analyze_of_text hread] at h
    cases hname : Path.moduleName? path with
    | error f => rw [hname] at h; cases h
    | ok name =>
      rw [hname, Outcome.result.injEq] at h
      rw [← h.1]
      exact Analysis.ofText_regular s path _ text

end Run

end SourceConventions
