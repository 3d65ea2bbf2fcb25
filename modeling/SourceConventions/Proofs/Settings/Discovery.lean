import Mathlib
import SourceConventions.Proofs.Files.Resolving
import SourceConventions.Proofs.Files.Snapshot
import SourceConventions.Settings.File

/-!
# Which file settings come from

From a start directory upwards the first project file decides, whatever it says, and the files above
it do not matter. A file that is named is asked in the same way. The two differ in what they make of
a document without the tool's section.
-/

namespace SourceConventions.SettingsFile

open FileTree

/-! ### What documents say -/

section Documents

variable {path : String} {dedicated : Bool} {octets : Octets} {document fields : SettingTable}

/-- That octets are those of a document. -/
def IsDocument (octets : Octets) (document : SettingTable) : Prop :=
  ∃ cs, Utf8.decode octets = .ok cs ∧ Toml.read cs = .ok document

/-- That octets are those of a text that is no document. An integer with too many digits is none of
the faults of a text. -/
def IsMalformed (octets : Octets) (f : Toml.Fault) : Prop :=
  ∃ cs, Utf8.decode octets = .ok cs ∧ Toml.read cs = .error f ∧
    ∀ digits, f.complaint ≠ .tooManyDigits digits

def HoldsSection (document fields : SettingTable) : Prop :=
  ∃ tools, document.get? "tool" = some (.table tools) ∧
    SettingTable.get? tools sectionName = some (.table fields)

/-- That nothing is said about tools, or nothing about this one. -/
def LacksSection (document : SettingTable) : Prop :=
  ∀ v, document.get? "tool" = some v →
    isNothing v = true ∨ ∃ tools, v = .table tools ∧ SettingTable.get? tools sectionName = none

/-- That something else stands where tables have to be. -/
inductive Misstated (path : String) (document : SettingTable) : SettingsFileFault → Prop
  | tool {v : Setting} (htool : document.get? "tool" = some v) (htable : ∀ tools, v ≠ .table tools)
    (hnothing : isNothing v = false) : Misstated path document (.toolNotTable path)
  | part {tools : SettingTable} {v : Setting} (htool : document.get? "tool" = some (.table tools))
    (hsection : SettingTable.get? tools sectionName = some v) (htable : ∀ fields, v ≠ .table fields) :
    Misstated path document (.sectionNotTable path)

theorem section_cases (path : String) (document : SettingTable) :
    (∃ fields, HoldsSection document fields) ∨ LacksSection document ∨
      ∃ f, Misstated path document f := by
  cases htool : document.get? "tool" with
  | none => exact .inr (.inl fun v hv => (by cases htool.symm.trans hv))
  | some v =>
    by_cases htable : ∃ tools, v = .table tools
    · obtain ⟨tools, rfl⟩ := htable
      cases hsection : SettingTable.get? tools sectionName with
      | none =>
        refine .inr (.inl fun v hv => .inr ⟨tools, ?_, hsection⟩)
        exact (Option.some.inj (htool.symm.trans hv)).symm
      | some inner =>
        by_cases hfields : ∃ fields, inner = .table fields
        · obtain ⟨fields, rfl⟩ := hfields
          exact .inl ⟨fields, tools, htool, hsection⟩
        · exact .inr (.inr ⟨_, .part htool hsection fun fields heq => hfields ⟨fields, heq⟩⟩)
    · cases hnothing : isNothing v with
      | true =>
        refine .inr (.inl fun w hw => .inl ?_)
        rw [← Option.some.inj (htool.symm.trans hw), hnothing]
      | false =>
        exact .inr (.inr ⟨_, .tool htool (fun tools heq => htable ⟨tools, heq⟩) hnothing⟩)

theorem section?_of_holds (h : HoldsSection document fields) : section? path document =
    .ok (some fields) := by
  obtain ⟨tools, htool, hsection⟩ := h
  rw [section?, htool]
  dsimp only
  rw [hsection]

theorem section?_of_lacks (h : LacksSection document) : section? path document = .ok none := by
  rw [section?]
  split
  next tools htool =>
    rcases h _ htool with hnothing | ⟨tools', heq, hsection⟩
    · obtain rfl : tools = [] := List.isEmpty_iff.mp hnothing
      rfl
    · cases heq
      rw [hsection]
  next v htable htool =>
    rcases h _ htool with hnothing | ⟨tools', heq, -⟩
    · rw [if_pos hnothing]
    · exact absurd heq (htable tools')
  next => rfl

theorem section?_of_misstated {f : SettingsFileFault}
    (h : Misstated path document f) : section? path document = .error f := by
  cases h with
  | @tool v htool htable hnothing =>
    rw [section?, htool]
    cases v with
    | table tools => exact absurd rfl (htable tools)
    | _ => exact if_neg (Bool.eq_false_iff.mp hnothing)
  | @part tools v htool hsection htable =>
    rw [section?, htool]
    dsimp only
    rw [hsection]
    cases v with
    | table fields => exact absurd rfl (htable fields)
    | _ => rfl

/-- That an answer is what a file asks for: what is made of the tool's section if there is one, else
of the document, or the fault of the one or the other. -/
structure Answers (path : String) (octets : Octets)
    (ofSection ofDocument : SettingTable → FoundSettings)
    (answer : Except SettingsTrouble FoundSettings) : Prop where
  held : ∀ document fields, IsDocument octets document → HoldsSection document fields →
    answer = .ok (ofSection fields)
  lacked : ∀ document, IsDocument octets document → LacksSection document →
    answer = .ok (ofDocument document)
  misstated : ∀ document f, IsDocument octets document → Misstated path document f →
    answer = .error (.fault f)
  malformed : ∀ f, IsMalformed octets f → answer = .error (.fault (.malformed path f))

theorem readTable_of_document (h : IsDocument octets document) :
    readTable path dedicated octets = (tableOf path dedicated document).mapError .fault := by
  obtain ⟨cs, hdecode, hread⟩ := h
  rw [readTable, parse, hdecode]
  dsimp only
  rw [hread]
  rfl

theorem readTable_of_malformed {f : Toml.Fault} (h : IsMalformed octets f) :
    readTable path dedicated octets = .error (.fault (.malformed path f)) := by
  obtain ⟨cs, hdecode, hread, hdigits⟩ := h
  rw [readTable, parse, hdecode]
  dsimp only
  rw [hread]
  dsimp only
  split
  next digits heq => exact absurd heq (hdigits digits)
  next => rfl

/-- What is made of the table of a file answers what the file says. -/
theorem answers_readTable (path : String) (dedicated : Bool) (octets : Octets)
    (ofTable : SettingTable → FoundSettings) :
    Answers path octets ofTable
      (fun document => ofTable (if dedicated then document.filter (·.1 != "tool") else []))
      ((readTable path dedicated octets).map ofTable) where
  held document fields hdocument h := by
    rw [readTable_of_document hdocument, tableOf, section?_of_holds h]
    rfl
  lacked document hdocument h := by
    rw [readTable_of_document hdocument, tableOf, section?_of_lacks h]
    rfl
  misstated document f hdocument h := by
    rw [readTable_of_document hdocument, tableOf, section?_of_misstated h]
    rfl
  malformed f h := by
    rw [readTable_of_malformed h]
    rfl

end Documents

/-! ### Project files -/

section Projects

variable {t : FileTree} {loc d : Location} {octets : Octets}

def projectPath (loc : Location) : String := locationText (loc ++ [projectFile])

def HoldsProject (t : FileTree) (loc : Location) (octets : Octets) : Prop :=
  ∃ l, t.find (projectPath loc) = .ok (l, .file octets)

/-- That there is no file. That there is none cannot be told of a path that is too long. -/
def LacksProject (t : FileTree) (loc : Location) : Prop :=
  (∀ octets, ¬ HoldsProject t loc octets) ∧ t.find (projectPath loc) ≠ .error .nameTooLong

/-- That of a location and those above it one holds a project file and none nearer does. -/
structure NearestProject (t : FileTree) (loc d : Location) (octets : Octets) : Prop where
  above : d <+: loc
  holds : HoldsProject t d octets
  nearest : ∀ d', d' <+: loc → d.length < d'.length → LacksProject t d'

theorem HoldsProject.nearest (h : HoldsProject t loc octets) : NearestProject t loc loc octets :=
  ⟨List.prefix_rfl, h, fun _ hd hlength => absurd hd.length_le (Nat.not_le.mpr hlength)⟩

theorem projectFileIn?_eq (t : FileTree) (d : Location) :
    projectFileIn? t d = match t.fileOctets? (projectPath d) with
      | .error f => .error (.file f (projectPath d))
      | .ok octets => .ok (octets.map (projectPath d, ·)) := rfl

theorem projectFileIn?_of_holds (h : HoldsProject t d octets) :
    projectFileIn? t d = .ok (some (projectPath d, octets)) := by
  obtain ⟨l, hl⟩ := h
  rw [projectFileIn?_eq, fileOctets?, hl]
  rfl

theorem projectFileIn?_of_lacks (h : LacksProject t d) : projectFileIn? t d = .ok none := by
  obtain ⟨hfile, hlong⟩ := h
  have hoctets : t.fileOctets? (projectPath d) = .ok none := by
    rw [fileOctets?]
    split
    next l octets hl => exact absurd ⟨l, hl⟩ (hfile octets)
    next hl => exact absurd hl hlong
    next => rfl
  rw [projectFileIn?_eq, hoctets]
  rfl

theorem upwards_concat (loc : Location) (name : String) :
    upwards (loc ++ [name]) = (loc ++ [name]) :: upwards loc := by
  rw [upwards, upwards, List.length_append, List.length_singleton, List.range_succ_eq_map,
    List.map_cons, List.map_map, Nat.sub_zero, List.take_of_length_le (by simp)]
  refine congrArg (_ :: ·) (List.map_congr_left fun n _ => ?_)
  rw [Function.comp_apply, Nat.succ_sub_succ, List.take_append_of_le_length (Nat.sub_le _ _)]

theorem nearest?_upwards (h : NearestProject t loc d octets) :
    (upwards loc).findSomeM? (projectFileIn? t) = .ok (some (projectPath d, octets)) := by
  obtain ⟨habove, hholds, hnearest⟩ := h
  induction loc using List.reverseRecOn with
  | nil =>
    obtain rfl := List.prefix_nil.mp habove
    have hfile := projectFileIn?_of_holds hholds
    simp [upwards, List.findSomeM?, hfile, bind, Except.bind, pure, Except.pure]
  | append_singleton rest name ih =>
    rw [upwards_concat, List.findSomeM?]
    rcases List.prefix_concat_iff.mp habove with rfl | hrest
    · rw [projectFileIn?_of_holds hholds]
      rfl
    · have hlacks := hnearest (rest ++ [name]) List.prefix_rfl (by
        rw [List.length_append]
        exact Nat.lt_succ_of_le hrest.length_le)
      rw [projectFileIn?_of_lacks hlacks]
      exact ih hrest fun d' hd' => hnearest d' (hd'.trans (List.prefix_append rest [name]))

theorem nearest?_upwards_of_lacks (h : ∀ d, d <+: loc → LacksProject t d) :
    (upwards loc).findSomeM? (projectFileIn? t) = .ok none := by
  induction loc using List.reverseRecOn with
  | nil =>
    have hfile := projectFileIn?_of_lacks (h [] List.prefix_rfl)
    simp [upwards, List.findSomeM?, hfile, bind, Except.bind, pure, Except.pure]
  | append_singleton rest name ih =>
    rw [upwards_concat, List.findSomeM?, projectFileIn?_of_lacks (h _ List.prefix_rfl)]
    exact ih fun d hd => h d (hd.trans (List.prefix_append rest [name]))

/-- There is no project file, or one is the nearest, or a path is too long. -/
theorem nearest_cases (t : FileTree) (loc : Location) :
    (∀ d, d <+: loc → LacksProject t d) ∨ (∃ d octets, NearestProject t loc d octets) ∨
      ∃ d, d <+: loc ∧ t.find (projectPath d) = .error .nameTooLong := by
  have hself (d : Location) : LacksProject t d ∨ (∃ octets, HoldsProject t d octets) ∨
      t.find (projectPath d) = .error .nameTooLong := by
    by_cases hholds : ∃ octets, HoldsProject t d octets
    · exact .inr (.inl hholds)
    · by_cases hlong : t.find (projectPath d) = .error .nameTooLong
      · exact .inr (.inr hlong)
      · exact .inl ⟨fun octets h => hholds ⟨octets, h⟩, hlong⟩
  induction loc using List.reverseRecOn with
  | nil =>
    rcases hself [] with hlacks | ⟨octets, hholds⟩ | hlong
    · exact .inl fun d hd => List.prefix_nil.mp hd ▸ hlacks
    · exact .inr (.inl ⟨[], octets, hholds.nearest⟩)
    · exact .inr (.inr ⟨[], List.prefix_rfl, hlong⟩)
  | append_singleton rest name ih =>
    rcases hself (rest ++ [name]) with hlacks | ⟨octets, hholds⟩ | hlong
    · have hfront := List.prefix_append rest [name]
      rcases ih with hall | ⟨d, octets, habove, hholds, hnear⟩ | ⟨d, hd, hlong⟩
      · refine .inl fun d hd => ?_
        rcases List.prefix_concat_iff.mp hd with rfl | hd
        · exact hlacks
        · exact hall d hd
      · refine .inr (.inl ⟨d, octets, habove.trans hfront, hholds, fun d' hd' hlength => ?_⟩)
        rcases List.prefix_concat_iff.mp hd' with rfl | hd'
        · exact hlacks
        · exact hnear d' hd' hlength
      · exact .inr (.inr ⟨d, hd.trans hfront, hlong⟩)
    · exact .inr (.inl ⟨_, octets, hholds.nearest⟩)
    · exact .inr (.inr ⟨_, List.prefix_rfl, hlong⟩)

end Projects

/-! ### Loading -/

section Loading

variable {t : FileTree} {start path : String} {loc d l : Location} {e : Entry} {octets : Octets}

/-- What is made of the table of a project file. -/
def ofProject (path defaultSource : String) (fields : SettingTable) : FoundSettings :=
  ⟨fields, if fields.isEmpty then defaultSource else path⟩

theorem nearest?_of_find (hstart : t.find start = .ok (loc, e)) :
    nearest? t start = (upwards loc).findSomeM? (projectFileIn? t) := by
  rw [nearest?, realLocation_of_find hstart]
  rfl

theorem load_of_nearest (hstart : t.find start = .ok (loc, e)) (h : NearestProject t loc d octets)
    (defaultSource : String) :
    load t none start defaultSource = ([foundLog (projectPath d)],
      (readTable (projectPath d) false octets).map (ofProject (projectPath d) defaultSource)) := by
  rw [load, discovered, nearest?_of_find hstart, nearest?_upwards h]
  dsimp only
  cases readTable (projectPath d) false octets <;> rfl

theorem load_of_lacks (hstart : t.find start = .ok (loc, e))
    (h : ∀ d, d <+: loc → LacksProject t d) (defaultSource : String) :
    load t none start defaultSource = ([], .ok ⟨[], defaultSource⟩) := by
  rw [load, discovered, nearest?_of_find hstart, nearest?_upwards_of_lacks h]

theorem load_of_named (h : t.find (Path.ofString path).text = .ok (l, .file octets))
    (start defaultSource : String) :
    load t (some path) start defaultSource = ([],
      (readTable (Path.ofString path).text true octets).map (⟨·, (Path.ofString path).text⟩)) := by
  have hoctets : t.fileOctets? (Path.ofString path).text = .ok (some octets) := by rw [fileOctets?, h]
  unfold load named
  simp only [hoctets]
  cases readTable (Path.ofString path).text true octets <;> rfl

/-- **The nearest project file decides.** From a start directory upwards, the first directory that
holds a project file gives the answer: the tool's section, or the defaults if that is empty or not
there, or the fault of a document that says something else in its place or is malformed. No file
above it makes a difference, nor anything else in the tree. Without a project file there are the
defaults. A file that is named answers alike, only that of a document without the section all that is
not said about tools is taken. -/
theorem nearest_project_decides (hstart : t.find start = .ok (loc, e)) (defaultSource : String) :
    ((∀ d, d <+: loc → LacksProject t d) →
      load t none start defaultSource = ([], .ok ⟨[], defaultSource⟩)) ∧
    (∀ d octets, NearestProject t loc d octets →
      (load t none start defaultSource).1 = [foundLog (projectPath d)] ∧
      Answers (projectPath d) octets
        (fun fields => ⟨fields, if fields.isEmpty then defaultSource else projectPath d⟩)
        (fun _ => ⟨[], defaultSource⟩) (load t none start defaultSource).2 ∧
      ∀ t' start' loc' e', t'.find start' = .ok (loc', e') → NearestProject t' loc' d octets →
        load t' none start' defaultSource = load t none start defaultSource) ∧
    ((∀ d, d <+: loc → LacksProject t d) ∨ (∃ d octets, NearestProject t loc d octets) ∨
      ∃ d, d <+: loc ∧ t.find (projectPath d) = .error .nameTooLong) ∧
    (∀ path l octets, t.find (Path.ofString path).text = .ok (l, .file octets) →
      (load t (some path) start defaultSource).1 = [] ∧
      Answers (Path.ofString path).text octets (fun fields => ⟨fields, (Path.ofString path).text⟩)
        (fun document => ⟨document.filter (·.1 != "tool"), (Path.ofString path).text⟩)
        (load t (some path) start defaultSource).2) ∧
    ∀ path document, (∃ fields, HoldsSection document fields) ∨ LacksSection document ∨
      ∃ f, Misstated path document f := by
  refine ⟨fun h => load_of_lacks hstart h defaultSource, fun d octets h => ?_, nearest_cases t loc,
    fun path l octets h => ?_, section_cases⟩
  · have hload := load_of_nearest hstart h defaultSource
    refine ⟨by rw [hload], ?_, fun t' start' loc' e' hstart' h' => ?_⟩
    · rw [hload]
      exact answers_readTable (projectPath d) false octets (ofProject (projectPath d) defaultSource)
    · rw [hload, load_of_nearest hstart' h']
  · rw [load_of_named h]
    exact ⟨rfl, answers_readTable (Path.ofString path).text true octets (⟨·, (Path.ofString path).text⟩)⟩

/-- A directory below one that has a project file; in its own place of that name is a directory. -/
def nested (octets farther : Octets) : FileTree where
  top := .directory [
    ("p", .directory [("pyproject.toml", .file octets),
      ("src", .directory [("pyproject.toml", .directory [])])]),
    ("pyproject.toml", .file farther)]
  here := ["p", "src"]
  barred := []

/-- What stands in a directory is found there. -/
theorem find_of_lookup {entries : List (String × Entry)} (above : Location) (name : String)
    (htop : t.top.Sound) (hlimits : path ≠ "" ∧ path.toList.contains '\x00' = false ∧
      path.utf8ByteSize ≤ maxPathOctets)
    (hsteps : (if isAbsolute path then [] else t.here) = loc ∧ steps path = above ++ [name])
    (hhere : t.top.at? (loc ++ above) = some (.directory entries)) (hname : Fits name)
    (hinner : entries.lookup name = some e) (hlink : ∀ target, e ≠ .link target) :
    t.find path = .ok (loc ++ above ++ [name], e) := by
  obtain ⟨hne, hnull, hsize⟩ := hlimits
  have hthere : t.top.at? (loc ++ above ++ [name]) = some e := (Entry.at?_snoc hhere name).trans hinner
  have hfollow : follow t.top maxLinks loc (above ++ [name]) = .ok (loc ++ above ++ [name], some e) := by
    rw [follow_append htop hhere, follow_cons_of_fits hhere hname, hinner]
    cases e with
    | link target => exact absurd rfl (hlink target)
    | file octets | directory inside =>
      dsimp only
      rw [follow, hthere]
  rw [find, trace, if_neg hne, if_neg (Bool.eq_false_iff.mp hnull), if_neg (Nat.not_lt.mpr hsize),
    hsteps.1, hsteps.2, hfollow]
  rfl

theorem nearest_nested (octets farther : Octets) :
    NearestProject (nested octets farther) ["p", "src"] ["p"] octets := by
  have htop : (nested octets farther).top.Sound :=
    ⟨by decide, rfl, ⟨by decide, rfl, trivial, by decide, rfl, ⟨by decide, rfl, trivial, trivial⟩,
      trivial⟩, by decide, rfl, trivial, trivial⟩
  have hfar : (nested octets farther).find (projectPath ["p"]) = .ok (_, .file octets) :=
    find_of_lookup ["p"] projectFile htop (by decide) ⟨rfl, by decide⟩ rfl (by decide) rfl (nofun)
  have hnear : (nested octets farther).find (projectPath ["p", "src"]) = .ok (_, .directory []) :=
    find_of_lookup ["p", "src"] projectFile htop (by decide) ⟨rfl, by decide⟩ rfl (by decide) rfl (nofun)
  refine ⟨⟨["src"], rfl⟩, ⟨_, hfar⟩, fun d hd hlength => ?_⟩
  rcases List.prefix_concat_iff.mp (show d <+: ["p"] ++ ["src"] from hd) with rfl | hd
  · refine ⟨fun other ⟨l, hl⟩ => ?_, fun hl => ?_⟩
    · cases hnear.symm.trans hl
    · cases hnear.symm.trans hl
  · exact absurd hd.length_le (Nat.not_le.mpr hlength)

def withSection : Octets := Utf8.ofString "[tool.convention-linter]\nexclude = [\"a\"]\n"

def withoutSection : Octets := Utf8.ofString "[project]\nname = \"a\"\n"

theorem nested_decides :
    (∃ e, (nested withSection withoutSection).find "." = .ok (["p", "src"], e)) ∧
    load (nested withSection withoutSection) none "." "<defaults>" =
      ([foundLog "/p/pyproject.toml"],
        .ok ⟨[("exclude", .list [.text "a"])], "/p/pyproject.toml"⟩) ∧
    load (nested withoutSection withSection) none "." "<defaults>" =
      ([foundLog "/p/pyproject.toml"], .ok ⟨[], "<defaults>"⟩) := by
  have hstart (octets farther : Octets) :
      ∃ e, (nested octets farther).find "." = .ok (["p", "src"], e) := ⟨_, find_point rfl⟩
  have hpath : projectPath ["p"] = "/p/pyproject.toml" := by decide
  have hwith : IsDocument withSection
      [("tool", .table [("convention-linter", .table [("exclude", .list [.text "a"])])])] :=
    ⟨_, by cbv, by cbv⟩
  have hwithout : IsDocument withoutSection [("project", .table [("name", .text "a")])] :=
    ⟨_, by cbv, by cbv⟩
  refine ⟨hstart _ _, ?_, ?_⟩
  · obtain ⟨e, hstart⟩ := hstart withSection withoutSection
    obtain ⟨hlogs, hanswers, -⟩ := (nearest_project_decides hstart "<defaults>").2.1 _ _
      (nearest_nested _ _)
    exact Prod.ext (hpath ▸ hlogs) (hpath ▸ hanswers.held _ _ hwith ⟨_, rfl, rfl⟩)
  · obtain ⟨e, hstart⟩ := hstart withoutSection withSection
    obtain ⟨hlogs, hanswers, -⟩ := (nearest_project_decides hstart "<defaults>").2.1 _ _
      (nearest_nested _ _)
    exact Prod.ext (hpath ▸ hlogs) (hanswers.lacked _ hwithout fun _ h => by cases h)

/-- A directory with a settings file and a project file of the same octets. -/
def twice (octets : Octets) : FileTree :=
  ⟨.directory [("p", .directory [("c.toml", .file octets), ("pyproject.toml", .file octets)])], ["p"], []⟩

def numbered : Octets := Utf8.ofString "tool = 1\n"

/-- Not every document without the tool's section gives its other entries, or the defaults: one that
says something else about tools than tables is refused. -/
theorem refused_without_section :
    (twice numbered).find (Path.ofString "c.toml").text = .ok (["p", "c.toml"], .file numbered) ∧
      NearestProject (twice numbered) ["p"] ["p"] numbered ∧
      IsDocument numbered [("tool", .int 1)] ∧
      (∀ fields, ¬ HoldsSection [("tool", .int 1)] fields) ∧
      load (twice numbered) (some "c.toml") "." "<defaults>" =
        ([], .error (.fault (.toolNotTable "c.toml"))) ∧
      load (twice numbered) none "." "<defaults>" =
        ([foundLog "/p/pyproject.toml"], .error (.fault (.toolNotTable "/p/pyproject.toml"))) := by
  have htop (octets : Octets) : (twice octets).top.Sound :=
    ⟨by decide, rfl, ⟨by decide, rfl, trivial, by decide, rfl, trivial, trivial⟩, trivial⟩
  have hfile (octets : Octets) : (twice octets).find (Path.ofString "c.toml").text =
      .ok (["p", "c.toml"], .file octets) :=
    find_of_lookup [] "c.toml" (htop octets) (by decide) ⟨rfl, by decide⟩ rfl (by decide) rfl
      fun _ => Entry.noConfusion
  have hproject (octets : Octets) : (twice octets).find (projectPath ["p"]) =
      .ok (["p", "pyproject.toml"], .file octets) :=
    find_of_lookup ["p"] projectFile (htop octets) (by decide) ⟨rfl, by decide⟩ rfl (by decide) rfl
      fun _ => Entry.noConfusion
  have hstart (octets : Octets) : ∃ e, (twice octets).find "." = .ok (["p"], e) :=
    ⟨_, find_point rfl⟩
  have hpath : projectPath ["p"] = "/p/pyproject.toml" := by decide
  have hplain : (Path.ofString "c.toml").text = "c.toml" := by decide
  have hdocument : IsDocument numbered [("tool", .int 1)] := ⟨_, by cbv, by cbv⟩
  have hmisstated (path : String) : Misstated path [("tool", .int 1)] (.toolNotTable path) :=
    .tool rfl (fun _ => Setting.noConfusion) rfl
  have hnearest := HoldsProject.nearest ⟨_, hproject numbered⟩
  refine ⟨hfile numbered, hnearest, hdocument, ?_, ?_, ?_⟩
  · rintro fields ⟨tools, htool, -⟩
    cases htool
  · rw [load_of_named (hfile numbered), hplain]
    exact congrArg _ ((answers_readTable _ true _ _).misstated _ _ hdocument (hmisstated _))
  · obtain ⟨e, hstart⟩ := hstart numbered
    rw [load_of_nearest hstart hnearest, hpath]
    exact congrArg _ ((answers_readTable _ false _ _).misstated _ _ hdocument (hmisstated _))

end Loading

end SourceConventions.SettingsFile
