import SourceConventions.Proofs.Files.Snapshot
import SourceConventions.Proofs.Run.FileIndependence

/-!
# Required directories

A directory that a project requires is told as missing once, however often it is listed and with
whatever slashes around it. It is told unless its names lead to a directory, none of them but the
last one excluded or that of a link: below such a name no walk goes on.
-/

namespace SourceConventions

open FileTree

/-! ### Entries of the list -/

/-- That an entry of the list of required directories stands for names: it holds them with slashes
in between, and slashes around them. -/
structure Spells (entry : String) (names : List String) : Prop where
  ne_nil : names ≠ []
  plain : ∀ n ∈ names, IsPlain n
  spelled : ∃ front back, entry.toList =
    List.replicate front '/' ++ (relativeText names).toList ++ List.replicate back '/'

theorem dropWhile_slashes {c : Char} (hc : c ≠ '/') (n : Nat) (rest : List Char) :
    (List.replicate n '/' ++ c :: rest).dropWhile (· == '/') = c :: rest := by
  rw [List.dropWhile_append_of_pos fun a ha => by rw [List.eq_of_mem_replicate ha]; rfl]
  exact List.dropWhile_cons_of_neg (by simpa using hc)

/-- Joined names do not end in a slash. -/
theorem exists_last_intercalate {names : List String} (hne : names ≠ [])
    (h : ∀ name ∈ names, Path.IsName name) :
    ∃ front c, ("/".intercalate names).toList = front ++ [c] ∧ c ≠ '/' := by
  obtain ⟨others, last, rfl⟩ : ∃ others last, names = others ++ [last] :=
    ⟨_, _, (List.dropLast_concat_getLast hne).symm⟩
  have hlast := h last (by simp)
  obtain ⟨front, c, hsplit⟩ : ∃ front c, last.toList = front ++ [c] :=
    ⟨_, _, (List.dropLast_concat_getLast hlast.ne_empty).symm⟩
  have hc : c ≠ '/' := by
    rintro rfl
    exact hlast.notMem (hsplit ▸ by simp)
  by_cases hothers : others = []
  · subst hothers
    exact ⟨front, c, by rw [List.nil_append, String.intercalate_singleton, hsplit], hc⟩
  · refine ⟨("/".intercalate others ++ "/").toList ++ front, c, ?_, hc⟩
    rw [String.intercalate_append_of_ne_nil hothers (List.cons_ne_nil last []),
      String.intercalate_singleton, String.toList_append, hsplit, List.append_assoc]

/-- The slashes around an entry are taken away and no others. -/
theorem withoutSlashes_of_spells {entry : String} {names : List String} (h : Spells entry names) :
    withoutSlashes entry = relativeText names := by
  obtain ⟨front, back, hentry⟩ := h.spelled
  have hnames : ∀ n ∈ names, Path.IsName n := fun n hn => (h.plain n hn).toIsName
  obtain ⟨c, rest, hcons, hc⟩ := Path.exists_head_intercalate h.ne_nil hnames
  obtain ⟨start, d, hsnoc, hd⟩ := exists_last_intercalate h.ne_nil hnames
  have htext : (relativeText names).toList = c :: rest := hcons
  have htext' : (relativeText names).toList = start ++ [d] := hsnoc
  have hfront : entry.toList.dropWhile (· == '/') =
      (relativeText names).toList ++ List.replicate back '/' := by
    rw [hentry, htext, List.append_assoc, List.cons_append]
    exact dropWhile_slashes hc front _
  rw [withoutSlashes, hfront, List.reverse_append, List.reverse_replicate, htext',
    List.reverse_append, List.reverse_singleton, List.singleton_append, dropWhile_slashes hd,
    ← List.singleton_append, ← List.reverse_singleton, ← List.reverse_append, List.reverse_reverse,
    ← htext', String.ofList_toList]

theorem Spells.bare {entry : String} {names : List String} (h : Spells entry names) :
    Spells (relativeText names) names :=
  ⟨h.ne_nil, h.plain, 0, 0, by simp⟩

theorem has_relativeText {entry : String} {names : List String} (h : Spells entry names)
    (found : DirectorySnapshot) :
    found.has (relativeText names) = true ↔ relativeText names ∈ found.directories := by
  rw [DirectorySnapshot.has, withoutSlashes_of_spells h.bare, List.contains_iff_mem]

/-- A file tree whose entries have names of their own and whose working directory is there. -/
structure FileTree.Sound (t : FileTree) : Prop where
  top : t.top.Sound
  here : ∃ entries, t.top.at? t.here = some (.directory entries)

/-- That a finding tells of a directory that is missing. -/
def Finding.tellsMissing (names : List String) (f : Finding) : Bool :=
  f.rule == Rule.requiredDirectory.id && f.path == relativeText names

namespace Run

variable {q : Request} {root : String} {files : List String} {logs : List Event}

/-- The root of a run is a directory, and its path is written as paths are. -/
theorem find_of_checkRoot (hsound : q.tree.Sound) (h : checkRoot q = .ok root) :
    (Path.ofString root).text = root ∧
      ∃ loc entries, q.tree.find root = .ok (loc, .directory entries) := by
  obtain ⟨here, hhere⟩ := hsound.here
  have hnames : ∀ n ∈ q.tree.here, Path.IsName n := fun n hn =>
    ((hsound.top.at? hhere).2 n hn).1.toIsName
  rw [checkRoot] at h
  cases hreal : q.tree.realPath q.root with
  | error f => rw [hreal] at h; cases h
  | ok path =>
    rw [hreal] at h
    change (do
      if !(← (q.tree.isDirectory path).mapError fun f => Fault.mishap (.file f path)) then
        .error (.root q.root .notDirectory)
      else if !(← (q.tree.isReadable path).mapError fun f => Fault.mishap (.file f path)) then
        .error (.root q.root .denied)
      else return path : Except Fault String) = .ok root at h
    cases hdirectory : q.tree.isDirectory path with
    | error f => rw [hdirectory] at h; cases h
    | ok answer =>
      rw [hdirectory] at h
      cases answer with
      | false => cases h
      | true =>
        have hpath : path = root := by
          cases hreadable : q.tree.isReadable path with
          | error f => rw [hreadable] at h; cases h
          | ok answer' => rw [hreadable] at h; cases answer' <;> cases h; rfl
        subst hpath
        refine ⟨text_ofString_of_realPath hnames hreal, ?_⟩
        rw [isDirectory] at hdirectory
        cases hfind : q.tree.find path with
        | error f => rw [hfind] at hdirectory; cases f <;> cases hdirectory
        | ok found =>
          obtain ⟨loc, e⟩ := found
          rw [hfind] at hdirectory
          cases e with
          | directory entries => exact ⟨loc, entries, rfl⟩
          | file octets | link target => cases hdirectory

/-- What the snapshot of a run tells. -/
theorem mem_directories_of_snapshot (hsound : q.tree.Sound) (hroot : checkRoot q = .ok root)
    {found : DirectorySnapshot} {logs' : List LogEntry}
    (hfound : q.tree.snapshot root defaultExcludedNames = .ok (found, logs')) :
    ∃ loc entries, q.tree.find root = .ok (loc, .directory entries) ∧
      ∀ names, names ≠ [] → (∀ n ∈ names, IsPlain n) →
        (relativeText names ∈ found.directories ↔
          q.tree.HasDirectory loc names ∧ q.tree.StandsOpen defaultExcludedNames loc names) := by
  obtain ⟨htext, loc, entries, hfind⟩ := find_of_checkRoot hsound hroot
  refine ⟨loc, entries, hfind, fun names hne hnames => ?_⟩
  rw [snapshot_of_find (htext.symm ▸ hfind)] at hfound
  cases hfound
  exact relativeText_mem_iff hsound.top (walkRoot_of_find hfind).2 hne hnames

/-- What a run tells of a directory that is missing. -/
theorem mem_report_tellsMissing (hstart : start q = .ok (root, files, logs)) (hq : q.Undisturbed)
    (found : DirectorySnapshot) (names : List String) {f : Finding} :
    f ∈ (reportOf q root files found).findings ∧ f.tellsMissing names = true ↔
      Rule.requiredDirectory ∈ q.settings.projectRules ∧
      Ledger.settle q.settings (Rules.requiredDirectoryFinding (relativeText names)) = some f ∧
      (∃ entry ∈ q.settings.requiredDirectories, withoutSlashes entry = relativeText names) ∧
      found.has (relativeText names) = false := by
  rw [Finding.tellsMissing, Bool.and_eq_true, beq_iff_eq, beq_iff_eq, mem_report_contributions hstart hq]
  constructor
  · rintro ⟨⟨file, -, r, hr, g, hg, hsettle⟩ | ⟨rule, hrule, g, hg, hsettle⟩, hof, hpath⟩
    · exact absurd hof (isAbout_of_contributed hq hr hg hsettle).2
    · cases rule with
      | requiredDirectory =>
        obtain ⟨name, hname, rfl⟩ := List.mem_map.mp hg
        obtain ⟨hlisted, hmissing⟩ := List.mem_filter.mp hname
        have heq : name = relativeText names := (Ledger.settle_keeps hsettle).2.symm.trans hpath
        subst heq
        exact ⟨hrule, hsettle, List.mem_map.mp hlisted, by simpa using hmissing⟩
      | _ => cases hg
  · rintro ⟨hrule, hsettle, hlisted, hmissing⟩
    obtain ⟨hof, hpath⟩ := Ledger.settle_keeps hsettle
    refine ⟨.inr ⟨_, hrule, _, List.mem_map_of_mem (List.mem_filter.mpr ⟨?_, ?_⟩), hsettle⟩, hof, hpath⟩
    · exact List.mem_map.mpr hlisted
    · rw [hmissing]
      rfl

theorem mem_projectRules {s : Settings} (hon : s.isEnabled Rule.requiredDirectory.id = true) :
    Rule.requiredDirectory ∈ s.projectRules :=
  List.mem_filter.mpr ⟨by decide, hon⟩

/-- Of a directory that is missing a report tells once. -/
theorem countP_tellsMissing (hstart : start q = .ok (root, files, logs)) (hq : q.Undisturbed)
    (hon : q.settings.isEnabled Rule.requiredDirectory.id = true) (found : DirectorySnapshot)
    {entry : String} {names : List String} (hentry : entry ∈ q.settings.requiredDirectories)
    (hspells : Spells entry names) :
    (reportOf q root files found).findings.countP (·.tellsMissing names) =
      if relativeText names ∈ found.directories then 0 else 1 := by
  have hiff {f : Finding} := mem_report_tellsMissing (f := f) hstart hq found names
  have hnodup : (reportOf q root files found).findings.Nodup :=
    (Sorting.sort_perm _ _).nodup_iff.mpr nodup_ledgerOf
  split
  case isTrue hthere =>
    rw [← has_relativeText hspells] at hthere
    refine List.countP_eq_zero.mpr fun f hf hmissing => ?_
    rw [(hiff.mp ⟨hf, hmissing⟩).2.2.2] at hthere
    cases hthere
  case isFalse hthere =>
    rw [← has_relativeText hspells, Bool.not_eq_true] at hthere
    obtain ⟨f, hsettle⟩ : ∃ f, Ledger.settle q.settings
        (Rules.requiredDirectoryFinding (relativeText names)) = some f :=
      ⟨_, if_pos hon⟩
    have hlisted : ∃ entry ∈ q.settings.requiredDirectories,
        withoutSlashes entry = relativeText names := ⟨entry, hentry, withoutSlashes_of_spells hspells⟩
    have hf := hiff.mpr ⟨mem_projectRules hon, hsettle, hlisted, hthere⟩
    have honly : ∀ g ∈ (reportOf q root files found).findings, g.tellsMissing names = (g == f) := by
      intro g hg
      rw [Bool.eq_iff_iff, beq_iff_eq]
      refine ⟨fun hmissing => ?_, fun heq => heq ▸ hf.2⟩
      exact Option.some.inj ((hiff.mp ⟨hg, hmissing⟩).2.1.symm.trans hsettle)
    rw [List.countP_congr fun g hg => by rw [honly g hg], ← List.count_eq_countP]
    exact List.count_eq_one_of_mem hnodup hf.1

/-- A required directory is told as missing once, unless names lead to a directory below names that
are neither excluded nor those of links. -/
theorem required_directory_told_once (hsound : q.tree.Sound) (hq : q.Faithful)
    (hon : q.settings.isEnabled Rule.requiredDirectory.id = true) {r : Report}
    (hr : (run q).report = .ok r) :
    ∃ root loc entries, checkRoot q = .ok root ∧ q.tree.find root = .ok (loc, .directory entries) ∧
      ∀ entry ∈ q.settings.requiredDirectories, ∀ names, Spells entry names →
        (q.tree.HasDirectory loc names ∧ q.tree.StandsOpen defaultExcludedNames loc names →
          r.findings.countP (·.tellsMissing names) = 0) ∧
        (¬ (q.tree.HasDirectory loc names ∧ q.tree.StandsOpen defaultExcludedNames loc names) →
          r.findings.countP (·.tellsMissing names) = 1) := by
  cases hstart : start q with
  | error f =>
    rw [run, hstart] at hr
    cases hr
  | ok answer =>
    obtain ⟨root, files, logs⟩ := answer
    have hroot := checkRoot_of_start hstart
    obtain ⟨found, logs', hfound⟩ := snapshot_of_start hstart
    obtain ⟨loc, entries, hfind, hdirectories⟩ := mem_directories_of_snapshot hsound hroot hfound
    refine ⟨root, loc, entries, hroot, hfind, fun entry hentry names hspells => ?_⟩
    have hcount := countP_tellsMissing (q := { q with around := .quiet }) hstart
      hq.undisturbed hon found hentry hspells
    have hreport : r = reportOf { q with around := .quiet } root files found :=
      eq_reportOf hstart hq hfound hr
    rw [← hreport] at hcount
    have hiff := hdirectories names hspells.ne_nil hspells.plain
    exact ⟨fun h => hcount.trans (if_pos (hiff.mpr h)),
      fun h => hcount.trans (if_neg (hiff.not.mpr h))⟩

/-- A project with a directory in another one, of which entries of different looks are required. -/
def oneDirectory : Request :=
  { twoFiles with
    tree := projectOf [("src", .directory [("api", .directory [])])]
    settings := { twoFiles.settings with requiredDirectories := ["/src/api", "docs", "docs//"] } }

theorem told_in_oneDirectory :
    ∃ r, (run oneDirectory).report = .ok r ∧
      r.findings.countP (·.tellsMissing ["src", "api"]) = 0 ∧
      r.findings.countP (·.tellsMissing ["docs"]) = 1 := by
  have hsound : oneDirectory.tree.Sound := by
    refine ⟨?_, _, rfl⟩
    exact ⟨by decide, rfl, ⟨by decide, rfl, ⟨by decide, rfl, trivial, trivial⟩, trivial⟩, trivial⟩
  have hstart : start oneDirectory = .ok ("/p", [], []) := start_projectOf rfl rfl [] (by decide)
  obtain ⟨r, hr⟩ := exists_report_of_read hstart ⟨rfl, fun _ _ => rfl⟩ (by simp)
  obtain ⟨root, loc, entries, hroot, hfind, htold⟩ :=
    required_directory_told_once hsound (fun _ _ => rfl) rfl hr
  cases (checkRoot_projectOf rfl rfl).symm.trans hroot
  cases (find_projectOf _).2.symm.trans hfind
  refine ⟨r, hr, ?_, ?_⟩
  · refine (htold "/src/api" (by decide) ["src", "api"] ⟨by decide, by decide, 1, 0, by decide⟩).1
      ⟨⟨["p", "src", "api"], [], ?_⟩, ?_⟩
    · rw [follow_directory rfl (by decide) rfl, follow_directory rfl (by decide) rfl, follow]
      rfl
    rintro front name back heq
    obtain ⟨rfl, hname⟩ : front = [] ∧ "src" = name := by
      cases front with
      | nil => exact ⟨rfl, (List.cons.inj heq).1⟩
      | cons first rest => exact absurd (List.cons.inj heq).2.symm (by simp)
    subst hname
    refine ⟨by decide, fun target htarget => ?_⟩
    cases htarget
  · refine (htold "docs//" (by decide) ["docs"] ⟨by decide, by decide, 0, 2, by decide⟩).2 ?_
    rintro ⟨⟨l, inside, h⟩, -⟩
    have hmissing : follow oneDirectory.tree.top maxLinks ["p"] ["docs"] =
        .ok (["p", "docs"], none) := by
      rw [follow_cons_of_fits rfl (by decide)]
      rfl
    cases hmissing.symm.trans h

/-- A project with a directory in an excluded one, to which a link leads. -/
def behindNames : Request :=
  { twoFiles with
    tree := projectOf [("build", .directory [("lib", .directory [])]), ("out", .link "build")]
    settings := { twoFiles.settings with requiredDirectories := ["build/lib", "out/lib"] } }

/-- The link leads on from the directory to which it points. -/
theorem follow_behindNames (names : List String) :
    follow behindNames.tree.top maxLinks ["p"] ("out" :: names) =
      follow behindNames.tree.top 39 ["p"] ("build" :: names) := by
  have hsteps : steps "build" = ["build"] := by decide
  rw [follow_cons_of_fits rfl (by decide)]
  change follow behindNames.tree.top 39 (if isAbsolute "build" then [] else ["p"])
    (steps "build" ++ names) = _
  rw [hsteps]
  rfl

theorem hasDirectory_behindNames :
    behindNames.tree.HasDirectory ["p"] ["build", "lib"] ∧
      behindNames.tree.HasDirectory ["p"] ["out", "lib"] := by
  have hfollow (links : Nat) : follow behindNames.tree.top links ["p"] ["build", "lib"] =
      .ok (["p", "build", "lib"], some (.directory [])) := by
    rw [follow_directory rfl (by decide) rfl, follow_directory rfl (by decide) rfl, follow]
    rfl
  exact ⟨⟨_, _, hfollow maxLinks⟩, _, _, (follow_behindNames ["lib"]).trans (hfollow 39)⟩

theorem leadsToDirectory_behindNames :
    behindNames.tree.leadsToDirectory ["p"] "out" (.link "build") = true := by
  rw [leadsToDirectory, follow_behindNames, follow_directory rfl (by decide) rfl, follow]
  rfl

/-- Directories that are there are told as missing below an excluded name and below a link. -/
theorem told_behind_names :
    checkRoot behindNames = .ok "/p" ∧
      (∃ entries, behindNames.tree.find "/p" = .ok (["p"], .directory entries)) ∧
      behindNames.settings.requiredDirectories = ["build/lib", "out/lib"] ∧
      ∃ r, (run behindNames).report = .ok r ∧
        ∀ names ∈ [["build", "lib"], ["out", "lib"]],
          behindNames.tree.HasDirectory ["p"] names ∧ r.findings.countP (·.tellsMissing names) = 1 := by
  have hq : behindNames.Undisturbed := ⟨rfl, fun _ _ => rfl⟩
  have hstart : start behindNames = .ok ("/p", [], []) := by
    refine start_projectOf rfl rfl [] ?_
    change Sorting.strings ((sourcesIn behindNames.tree defaultExcludedNames ["p"] [] _).map _) = _
    simp only [sourcesIn, sourcesAmong, List.append_nil, leadsToDirectory_behindNames]
    decide
  have hfound : behindNames.tree.snapshot "/p" defaultExcludedNames =
      .ok (⟨"/p", ["build", "out"]⟩, []) := by
    refine (snapshot_projectOf defaultExcludedNames).trans ?_
    change Except.ok (DirectorySnapshot.mk _
      ((directoriesIn behindNames.tree defaultExcludedNames ["p"] [] _).map _), _) = _
    simp only [directoriesIn, directoriesAmong, List.append_nil, leadsToDirectory_behindNames]
    rfl
  obtain ⟨r, hr⟩ := exists_report_of_read hstart hq (by simp)
  refine ⟨checkRoot_projectOf rfl rfl, ⟨_, (find_projectOf _).2⟩, rfl, r, hr, ?_⟩
  have hbuild : Spells "build/lib" ["build", "lib"] := ⟨by decide, by decide, 0, 0, by decide⟩
  have hout : Spells "out/lib" ["out", "lib"] := ⟨by decide, by decide, 0, 0, by decide⟩
  rw [eq_reportOf hstart hq.fate hfound hr]
  simp only [List.forall_mem_cons]
  refine ⟨⟨hasDirectory_behindNames.1, ?_⟩, ⟨hasDirectory_behindNames.2, ?_⟩,
    fun _ h => absurd h List.not_mem_nil⟩
  · exact (countP_tellsMissing hstart hq rfl _ (by decide) hbuild).trans (if_neg (by decide))
  · exact (countP_tellsMissing hstart hq rfl _ (by decide) hout).trans (if_neg (by decide))

end Run

end SourceConventions
