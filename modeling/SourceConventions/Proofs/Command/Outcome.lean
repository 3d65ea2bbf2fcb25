import SourceConventions.Command.Response
import SourceConventions.Proofs.Console.Escaping
import SourceConventions.Proofs.Files.Writing
import SourceConventions.Proofs.Path.Normal
import SourceConventions.Proofs.Report.History

/-!
# What a check ends in

A check is refused for a reason that is foreseen, meets with a mishap, or delivers its report in
full. Which of them it is decides the code with which it exits. A mishap exits as a report with an
error does, but nothing is delivered.
-/

namespace SourceConventions.Command

open Run

variable {env : Environment} {o : CheckOptions} {format : ReportFormat} {s : Settings}
  {report : Report} {m : Mishap}

/-- What the loading of the settings that a check asks for comes to. -/
def loaded (env : Environment) (o : CheckOptions) : List LogEntry × Except LoadFault Settings :=
  Settings.load env.tree (o.config.map fun c => (Path.ofString c).text) (Path.ofString o.root).text

/-- A check whose format is known and whose settings are loaded, so that files are worked on. -/
structure Runs (env : Environment) (o : CheckOptions) (format : ReportFormat) (s : Settings) :
    Prop where
  format : ReportFormat.ofName? o.format = .ok format
  settings : (loaded env o).2 = .ok s

/-- The path of the file for the report of a check. -/
def outputPath? (o : CheckOptions) : Option String := o.output.map fun p => (Path.ofString p).text

/-- A check that ends for a reason that is foreseen. -/
inductive Refused (env : Environment) (o : CheckOptions) : Prop
  | format {f : UnknownFormat} (h : ReportFormat.ofName? o.format = .error f)
  | settings {format : ReportFormat} {f : LoadFault}
      (hformat : ReportFormat.ofName? o.format = .ok format) (h : (loaded env o).2 = .error f)
      (hf : ∀ m, f ≠ .mishap m)
  | run {format : ReportFormat} {s : Settings} {f : Fault} (hruns : Runs env o format s)
      (h : (run (request env o s)).report = .error f) (hf : ∀ m, f ≠ .mishap m)

/-- A check that ends in a mishap: in the loading of its settings, in its run or when its report is
to be written to a file. -/
inductive Fails (env : Environment) (o : CheckOptions) : Mishap → Prop
  | settings {format : ReportFormat} {m : Mishap}
      (hformat : ReportFormat.ofName? o.format = .ok format)
      (h : (loaded env o).2 = .error (.mishap m)) : Fails env o m
  | run {format : ReportFormat} {s : Settings} {m : Mishap} (hruns : Runs env o format s)
      (h : (run (request env o s)).report = .error (.mishap m)) : Fails env o m
  | output {format : ReportFormat} {s : Settings} {report : Report} {path : String} {f : FileFault}
      (hruns : Runs env o format s) (h : (run (request env o s)).report = .ok report)
      (hpath : outputPath? o = some path) (hwrite : env.tree.write path [] = .error f) :
      Fails env o (.file f path)

/-- A check that delivers a report in full: as its output or, if a file is named, in that file and
without an output. -/
def Delivers (env : Environment) (o : CheckOptions) (report : Report) : Prop :=
  ∃ format s, Runs env o format s ∧ (run (request env o s)).report = .ok report ∧
    match outputPath? o with
    | none => (check env o).output = format.render report
    | some path => (check env o).output = "" ∧
        (check env o).tree.octets path = .ok (Utf8.ofString (format.render report))

/-- The response to a check when its format is known. -/
def begun (env : Environment) (o : CheckOptions) : Response :=
  { Response.silent env 0 with
    events := [.notice .greeting]
    console := { Console.standard with quiet := o.quiet }
    level := if o.verbose then .debug else .warning }

/-- The response to a check when its settings have been loaded. -/
def settled (env : Environment) (o : CheckOptions) : Response :=
  (begun env o).tell ((loaded env o).1.map Event.log)

/-- The response to a check when its files have been worked on. -/
def worked (env : Environment) (o : CheckOptions) (s : Settings) : Response :=
  (settled env o).tell (run (request env o s)).events

/-! ### Stage by stage -/

theorem check_of_settings (h : ReportFormat.ofName? o.format = .ok format) :
    check env o =
      match (loaded env o).2 with
      | .error f => (settled env o).unsettled f
      | .ok s => checkWith env o format s (settled env o) := by
  rw [check, h]
  rfl

theorem check_of_run (h : Runs env o format s) :
    check env o =
      match (run (request env o s)).report with
      | .error (.mishap m) => (worked env o s).crash m
      | .error f => (worked env o s).fatal [error f.text]
      | .ok report => (worked env o s).deliver o.output format report := by
  rw [check_of_settings h.format, h.settings]
  rfl

/-- A response that delivers nothing. -/
structure Empty (env : Environment) (r : Response) : Prop where
  output : r.output = ""
  tree : r.tree = env.tree

/-- What is foreseen exits with the code for fatal faults and delivers nothing. -/
theorem Refused.check_eq (h : Refused env o) :
    (check env o).exitCode = fatalCode ∧ Empty env (check env o) ∧ (check env o).mishap = none := by
  cases h with
  | format h =>
    rw [check, h]
    exact ⟨rfl, ⟨rfl, rfl⟩, rfl⟩
  | @settings format f hformat h hf =>
    rw [check_of_settings hformat, h]
    cases f with
    | mishap m => exact absurd rfl (hf m)
    | file _ => exact ⟨rfl, ⟨rfl, rfl⟩, rfl⟩
    | table _ _ => exact ⟨rfl, ⟨rfl, rfl⟩, rfl⟩
  | @run format s f hruns h hf =>
    rw [check_of_run hruns, h]
    cases f with
    | mishap m => exact absurd rfl (hf m)
    | aborted => exact ⟨rfl, ⟨rfl, rfl⟩, rfl⟩
    | root _ _ => exact ⟨rfl, ⟨rfl, rfl⟩, rfl⟩

section Files

variable {r : Response} {path : String} {tree : FileTree}

theorem deliver_of_writeText {mishap : Option Mishap}
    (h : r.tree.writeText (Path.ofString path).text "utf-8" (format.render report) = (tree, mishap)) :
    (∀ m, mishap = some m → r.deliver (some path) format report = { r with tree }.crash m) ∧
    (mishap = none → r.deliver (some path) format report =
      { r.tell [.notice (.step s!"Report written to {(Path.ofString path).text}")] with
        tree, exitCode := report.exitCode }) := by
  unfold Response.deliver
  simp -iota only
  split
  next heq => cases heq
  next p heq =>
    cases heq
    split
    next tree' mishap' hwritten =>
      rw [h] at hwritten
      cases hwritten
      constructor
      · rintro m rfl
        rfl
      · rintro rfl
        rfl

/-- Where there is no file to write a report to it is not delivered. -/
theorem deliver_of_error {f : FileFault}
    (h : r.tree.write (Path.ofString path).text [] = .error f) :
    r.deliver (some path) format report = r.crash (.file f (Path.ofString path).text) := by
  rw [← Path.text_ofString_text path] at h
  have hwrite := FileTree.writeText_of_error h "utf-8" (format.render report)
  rw [Path.text_ofString_text path] at hwrite
  exact (deliver_of_writeText hwrite).1 _ rfl

/-- A report that is delivered to a file stands there as a whole. -/
theorem exists_deliver (h : r.tree.write (Path.ofString path).text [] = .ok tree)
    (format : ReportFormat) (report : Report) :
    ∃ tree, tree.octets (Path.ofString path).text = .ok (Utf8.ofString (format.render report)) ∧
      r.deliver (some path) format report =
        { r.tell [.notice (.step s!"Report written to {(Path.ofString path).text}")] with
          tree, exitCode := report.exitCode } := by
  rw [← Path.text_ofString_text path] at h
  obtain ⟨tree, hwrite, hread⟩ := FileTree.exists_writeText h (format.render report)
  rw [Path.text_ofString_text path] at hread
  exact ⟨tree, hread, (deliver_of_writeText hwrite).2 rfl⟩

theorem console_deliver (r : Response) (output : Option String) (format : ReportFormat)
    (report : Report) : (r.deliver output format report).console = r.console := by
  cases output with
  | none => rfl
  | some path =>
    cases hwrite : r.tree.writeText (Path.ofString path).text "utf-8" (format.render report) with
    | mk tree mishap =>
      obtain ⟨hcrash, hdeliver⟩ := deliver_of_writeText hwrite
      cases mishap with
      | some m => rw [hcrash m rfl]; rfl
      | none => rw [hdeliver rfl]; rfl

end Files

/-- Nothing that a check meets changes its console. -/
theorem console_check (env : Environment) (o : CheckOptions) :
    (check env o).console = { Console.standard with quiet := o.quiet } := by
  cases hformat : ReportFormat.ofName? o.format with
  | error f => rw [check, hformat]; rfl
  | ok format =>
    cases hsettings : (loaded env o).2 with
    | error f =>
      rw [check_of_settings hformat, hsettings]
      cases f <;> rfl
    | ok s =>
      rw [check_of_run ⟨hformat, hsettings⟩]
      cases (run (request env o s)).report with
      | error f => cases f <;> rfl
      | ok report => exact console_deliver _ _ _ _

/-- What a check tells can always be shown. -/
theorem exists_printed_check (env : Environment) (o : CheckOptions) (n : Notice) :
    ∃ text, (check env o).console.printed n = .ok text := by
  have hcolour : Markup.isStyle Console.standard.colour.toList = true := by decide
  have hproject : Markup.isBare Console.standard.project.toList = true := by decide
  exact console_check env o ▸ Console.exists_printed
    (c := { Console.standard with quiet := o.quiet }) hcolour hproject n

theorem outputPath?_of_some {path : String} (h : o.output = some path) :
    outputPath? o = some (Path.ofString path).text := by
  rw [outputPath?, h]
  rfl

/-- A mishap has a code of its own and delivers nothing. -/
theorem Fails.check_eq (h : Fails env o m) :
    (check env o).exitCode = mishapCode ∧ Empty env (check env o) ∧
      (check env o).mishap = some m := by
  cases h with
  | settings hformat h =>
    rw [check_of_settings hformat, h]
    exact ⟨rfl, ⟨rfl, rfl⟩, rfl⟩
  | run hruns h =>
    rw [check_of_run hruns, h]
    exact ⟨rfl, ⟨rfl, rfl⟩, rfl⟩
  | @output format s report path f hruns h hpath hwrite =>
    obtain ⟨named, hnamed, rfl⟩ := Option.map_eq_some_iff.mp hpath
    have hdeliver : (worked env o s).deliver (some named) format report =
        (worked env o s).crash (.file f (Path.ofString named).text) := deliver_of_error hwrite
    rw [check_of_run hruns, h, hnamed]
    dsimp only
    rw [hdeliver]
    exact ⟨rfl, ⟨rfl, rfl⟩, rfl⟩

/-- A check whose report is delivered exits with the code of the report. -/
theorem Delivers.check_eq (h : Delivers env o report) :
    (check env o).exitCode = report.exitCode ∧ (check env o).mishap = none := by
  obtain ⟨format, s, hruns, hreport, hdelivered⟩ := h
  have hcheck := check_of_run hruns
  rw [hreport] at hcheck
  dsimp only at hcheck
  cases hnamed : o.output with
  | none =>
    rw [hcheck, hnamed]
    exact ⟨rfl, rfl⟩
  | some path =>
    rw [outputPath?_of_some hnamed] at hdelivered
    rw [hnamed] at hcheck
    cases hwrite : env.tree.write (Path.ofString path).text [] with
    | ok tree =>
      obtain ⟨tree, -, hdeliver⟩ := exists_deliver (r := worked env o s) hwrite format report
      rw [hcheck, hdeliver]
      exact ⟨rfl, rfl⟩
    | error f =>
      -- Nothing has been written, so that what is read there could have been written.
      have hdeliver : (worked env o s).deliver (some path) format report =
          (worked env o s).crash (.file f (Path.ofString path).text) := deliver_of_error hwrite
      rw [hcheck, hdeliver] at hdelivered
      obtain ⟨tree, htree⟩ := FileTree.exists_write_of_octets hdelivered.2 []
      exact nomatch hwrite.symm.trans htree

/-- Every check is refused, meets with a mishap or delivers a report. -/
theorem check_cases (env : Environment) (o : CheckOptions) :
    Refused env o ∨ (∃ m, Fails env o m) ∨ ∃ report, Delivers env o report := by
  cases hformat : ReportFormat.ofName? o.format with
  | error f => exact .inl (.format hformat)
  | ok format =>
    cases hsettings : (loaded env o).2 with
    | error f =>
      cases f with
      | mishap m => exact .inr (.inl ⟨m, .settings hformat hsettings⟩)
      | file f => exact .inl (.settings hformat hsettings nofun)
      | table source f => exact .inl (.settings hformat hsettings nofun)
    | ok s =>
      have hruns : Runs env o format s := ⟨hformat, hsettings⟩
      cases hreport : (run (request env o s)).report with
      | error f =>
        cases f with
        | mishap m => exact .inr (.inl ⟨m, .run hruns hreport⟩)
        | root path reason => exact .inl (.run hruns hreport nofun)
        | aborted => exact .inl (.run hruns hreport nofun)
      | ok report =>
        have hcheck := check_of_run hruns
        rw [hreport] at hcheck
        dsimp only at hcheck
        cases hnamed : o.output with
        | none =>
          have hpath : outputPath? o = none := by rw [outputPath?, hnamed]; rfl
          refine .inr (.inr ⟨report, ⟨format, s, hruns, hreport, ?_⟩⟩)
          rw [hpath, hcheck, hnamed]
          rfl
        | some named =>
          have hpath := outputPath?_of_some hnamed
          rw [hnamed] at hcheck
          cases hwrite : env.tree.write (Path.ofString named).text [] with
          | error f => exact .inr (.inl ⟨_, .output hruns hreport hpath hwrite⟩)
          | ok tree =>
            obtain ⟨tree, hread, hdeliver⟩ :=
              exists_deliver (r := worked env o s) hwrite format report
            refine .inr (.inr ⟨report, ⟨format, s, hruns, hreport, ?_⟩⟩)
            rw [hpath, hcheck, hdeliver]
            exact ⟨rfl, hread⟩

/-! ### Settings that are not UTF-8 -/

/-- The octets of the settings file that a check reads, if there is one. -/
def settingsOctets? (env : Environment) (o : CheckOptions) : Option Octets :=
  match o.config with
  | some config => (env.tree.fileOctets? (Path.ofString config).text).toOption.join
  | none =>
    match SettingsFile.nearest? env.tree (Path.ofString o.root).text with
    | .ok (some (_, octets)) => some octets
    | _ => none

theorem readTable_of_undecodable {path : String} {dedicated : Bool} {octets : Octets}
    {f : Utf8.Fault} (h : Utf8.decode octets = .error f) :
    SettingsFile.readTable path dedicated octets = .error (.mishap (.undecodable f)) := by
  rw [SettingsFile.readTable, SettingsFile.parse, h]
  rfl

/-- Nobody foresees settings that are not UTF-8. -/
theorem loaded_of_undecodable {octets : Octets} {f : Utf8.Fault}
    (h : settingsOctets? env o = some octets) (hf : Utf8.decode octets = .error f) :
    (loaded env o).2 = .error (.mishap (.undecodable f)) := by
  rw [settingsOctets?] at h
  rw [loaded, Settings.load]
  cases hconfig : o.config with
  | some config =>
    rw [hconfig] at h
    dsimp only at h
    rw [Option.map_some, SettingsFile.load]
    cases hfile : env.tree.fileOctets? (Path.ofString config).text with
    | error e => rw [hfile] at h; cases h
    | ok found =>
      rw [hfile] at h
      obtain rfl : found = some octets := h
      have hnamed : SettingsFile.named env.tree (Path.ofString config).text =
          .error (.mishap (.undecodable f)) := by
        rw [SettingsFile.named, Path.text_ofString_text, hfile]
        dsimp only
        rw [readTable_of_undecodable hf]
        rfl
      rw [hnamed]
      rfl
  | none =>
    rw [hconfig] at h
    dsimp only at h
    rw [Option.map_none, SettingsFile.load]
    split at h
    next path octets' hnearest =>
      cases h
      rw [SettingsFile.discovered, hnearest]
      dsimp only
      rw [readTable_of_undecodable hf]
      rfl
    next => cases h

/-- How a check ends, by the code that it exits with and its mishap. -/
inductive Ends (env : Environment) (o : CheckOptions) : Nat → Option Mishap → Prop
  | clean {report : Report} (h : Delivers env o report)
      (hno : ∀ f ∈ report.findings, f.severity ≠ .error) : Ends env o 0 none
  | faulty {report : Report} (h : Delivers env o report)
      (herror : ∃ f ∈ report.findings, f.severity = .error) : Ends env o 1 none
  | failed {m : Mishap} (h : Fails env o m) : Ends env o mishapCode (some m)
  | refused (h : Refused env o) : Ends env o fatalCode none

theorem ends_of_check (env : Environment) (o : CheckOptions) :
    Ends env o (check env o).exitCode (check env o).mishap := by
  rcases check_cases env o with hrefused | ⟨m, hfails⟩ | ⟨report, hdelivers⟩
  · rw [hrefused.check_eq.1, hrefused.check_eq.2.2]
    exact .refused hrefused
  · rw [hfails.check_eq.1, hfails.check_eq.2.2]
    exact .failed hfails
  · rw [hdelivers.check_eq.1, hdelivers.check_eq.2]
    by_cases herror : ∃ f ∈ report.findings, f.severity = .error
    · rw [Report.exitCode_of_error herror]
      exact .faulty hdelivers herror
    · have hno : ∀ f ∈ report.findings, f.severity ≠ .error := fun f hf h => herror ⟨f, hf, h⟩
      rw [Report.exitCode_of_no_error hno]
      exact .clean hdelivers hno

/-- A check exits with 0 or 1 if a report without or with an error has been delivered in full, and
with 2 if it is refused. A mishap exits with 1 as well: settings that are not UTF-8 end in one, and so
does a report that there is no file for. Nothing is delivered unless all of it is, and what the check
tells on the way can be shown. -/
theorem outcome_of_check (env : Environment) (o : CheckOptions) :
    ((check env o).exitCode = 0 ↔
      ∃ report, Delivers env o report ∧ ∀ f ∈ report.findings, f.severity ≠ .error) ∧
    ((check env o).exitCode = 1 ↔
      (∃ report, Delivers env o report ∧ ∃ f ∈ report.findings, f.severity = .error) ∨
        ∃ m, Fails env o m) ∧
    ((check env o).exitCode = 2 ↔ Refused env o) ∧
    (∀ m, (check env o).mishap = some m ↔ Fails env o m) ∧
    ((¬ ∃ report, Delivers env o report) →
      (check env o).output = "" ∧ (check env o).tree = env.tree) ∧
    (∀ n, Event.notice n ∈ (check env o).events →
      ∃ text, (check env o).console.printed n = .ok text) ∧
    ∀ format octets f, ReportFormat.ofName? o.format = .ok format →
      settingsOctets? env o = some octets → Utf8.decode octets = .error f →
        Fails env o (.undecodable f) := by
  have hends := ends_of_check env o
  refine ⟨⟨fun h => ?_, ?_⟩, ⟨fun h => ?_, ?_⟩, ⟨fun h => ?_, fun h => h.check_eq.1⟩,
    fun m => ⟨fun h => ?_, fun h => h.check_eq.2.2⟩, fun hnone => ?_,
    fun n _ => exists_printed_check env o n,
    fun format octets f hformat hoctets hf => .settings hformat (loaded_of_undecodable hoctets hf)⟩
  · rw [h] at hends
    generalize (check env o).mishap = m? at hends
    cases hends with
    | clean hdelivers hno => exact ⟨_, hdelivers, hno⟩
  · rintro ⟨report, hdelivers, hno⟩
    rw [hdelivers.check_eq.1, Report.exitCode_of_no_error hno]
  · rw [h] at hends
    generalize (check env o).mishap = m? at hends
    cases hends with
    | faulty hdelivers herror => exact .inl ⟨_, hdelivers, herror⟩
    | failed hfails => exact .inr ⟨_, hfails⟩
  · rintro (⟨report, hdelivers, herror⟩ | ⟨m, hfails⟩)
    · rw [hdelivers.check_eq.1, Report.exitCode_of_error herror]
    · exact hfails.check_eq.1
  · rw [h] at hends
    generalize (check env o).mishap = m? at hends
    cases hends with
    | refused hrefused => exact hrefused
  · rw [h] at hends
    generalize (check env o).exitCode = code at hends
    cases hends with
    | failed hfails => exact hfails
  · rcases check_cases env o with hrefused | ⟨m, hfails⟩ | hdelivers
    · exact ⟨hrefused.check_eq.2.1.output, hrefused.check_eq.2.1.tree⟩
    · exact ⟨hfails.check_eq.2.1.output, hfails.check_eq.2.1.tree⟩
    · exact absurd hdelivers hnone

end SourceConventions.Command
