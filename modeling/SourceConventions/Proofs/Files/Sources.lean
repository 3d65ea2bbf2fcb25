import Mathlib
import SourceConventions.Proofs.Files.Snapshot

/-!
# The source files of a walk

The search for source files and the snapshot of the directories go down through the same directories.
The one tells what is no directory and has the name of a source file, the other what leads to a
directory, and every path that the one or the other tells stands in a directory of the snapshot or in
the root.
-/

namespace SourceConventions.FileTree

open Entry

variable {t : FileTree} {excluded : List String} {root below loc l : Location} {names : List String}
  {name : String} {e : Entry} {entries : List (String × Entry)}
  {p : Location → String → Entry → Prop}

/-! ### What a search for source files finds -/

/-- That an entry is taken for a source file. -/
def IsSource (t : FileTree) (loc : Location) (name : String) (e : Entry) : Prop :=
  t.leadsToDirectory loc name e = false ∧ isSourceName name = true

mutual

theorem mem_sourcesIn {below : Location} :
    ∀ {e : Entry}, e.Sound →
      (l ∈ sourcesIn t excluded root below e ↔ Reached t.IsSource excluded root below e l)
  | .directory _, h => mem_sourcesAmong h
  | .file _, _ => iff_of_false List.not_mem_nil fun h => nomatch isDirectory_of_reached h
  | .link _, _ => iff_of_false List.not_mem_nil fun h => nomatch isDirectory_of_reached h

theorem mem_sourcesAmong {below : Location} :
    ∀ {entries : List (String × Entry)}, SoundAmong entries →
      (l ∈ sourcesAmong t excluded root below entries ↔
        Reached t.IsSource excluded root below (.directory entries) l)
  | [], _ => iff_of_false List.not_mem_nil not_reached_nil
  | (name, e) :: rest, ⟨_, hfresh, he, hrest⟩ => by
    rw [sourcesAmong, List.mem_append, reached_cons hfresh, mem_sourcesAmong hrest, IsSource]
    refine or_congr_left ?_
    by_cases hleads : t.leadsToDirectory (root ++ below) name e = true
    · by_cases hname : name ∈ excluded
      · simp [hleads, hname]
      · simp [hleads, hname, mem_sourcesIn he]
    · -- Nothing is reached in what is no directory.
      have hnot : ¬ Reached t.IsSource excluded root (below ++ [name]) e l := fun h =>
        hleads (leadsToDirectory_of_isDirectory (isDirectory_of_reached h))
      by_cases hsource : isSourceName name = true
      · simp [hleads, hsource, hnot]
      · simp [hleads, hsource, hnot]

end

theorem exists_first_of_reached (h : Reached p excluded root below (.directory entries) l) :
    ∃ first back, l = below ++ first :: back ∧ entries.lookup first ≠ none := by
  obtain ⟨above, last, inner, rfl, -, hinner, -⟩ := h
  have hfirst {first : String} {back : Location}
      (h : (directory entries).at? (first :: back) = some inner) : entries.lookup first ≠ none := by
    intro hnone
    rw [Entry.at?, child?, hnone] at h
    cases h
  cases above with
  | nil => exact ⟨last, [], by rw [List.append_nil], hfirst hinner⟩
  | cons first rest => exact ⟨first, rest ++ [last], by simp, hfirst hinner⟩

mutual

/-- Each source file is found once. -/
theorem nodup_sourcesIn {below : Location} :
    ∀ {e : Entry}, e.Sound → (sourcesIn t excluded root below e).Nodup
  | .directory _, h => nodup_sourcesAmong h
  | .file _, _ => .nil
  | .link _, _ => .nil

theorem nodup_sourcesAmong {below : Location} :
    ∀ {entries : List (String × Entry)}, SoundAmong entries →
      (sourcesAmong t excluded root below entries).Nodup
  | [], _ => .nil
  | (name, e) :: rest, ⟨_, hfresh, he, hrest⟩ => by
    rw [sourcesAmong]
    refine List.nodup_append.mpr ⟨?_, nodup_sourcesAmong hrest, ?_⟩
    · split
      · split
        · exact .nil
        · exact nodup_sourcesIn he
      · split
        · exact List.pairwise_singleton _ _
        · exact .nil
    · rintro l hown l' hothers rfl
      have hbelow : ∃ back, l = below ++ name :: back := by
        split at hown
        · split at hown
          · cases hown
          · obtain ⟨above, last, inner, rfl, -⟩ := (mem_sourcesIn he).mp hown
            exact ⟨above ++ [last], by simp⟩
        · split at hown
          · exact ⟨[], List.mem_singleton.mp hown⟩
          · cases hown
      obtain ⟨back, rfl⟩ := hbelow
      obtain ⟨first, back', heq, hfirst⟩ := exists_first_of_reached ((mem_sourcesAmong hrest).mp hothers)
      exact hfirst ((List.cons.inj (List.append_cancel_left heq)).1 ▸ hfresh)

end

/-! ### Entries to which names lead -/

/-- That names lead to an entry of a directory, links above it being followed. -/
def HasEntry (t : FileTree) (loc : Location) (names : List String) : Prop :=
  ∃ above name l here e, names = above ++ [name] ∧
    follow t.top maxLinks loc above = .ok (l, some (.directory here)) ∧ here.lookup name = some e

/-- Names that lead somewhere without a link lead there one after the other. -/
theorem at?_of_follow {top : Entry} {links : Nat} (hnames : ∀ n ∈ names, IsPlain n)
    (h : follow top links loc names = .ok (l, some e))
    (hlinks : ∀ front n back, names = front ++ n :: back →
      ∀ target, top.at? (loc ++ front ++ [n]) ≠ some (.link target)) :
    top.at? (loc ++ names) = some e := by
  induction names generalizing loc with
  | nil =>
    rw [follow] at h
    rw [List.append_nil]
    exact congrArg Prod.snd (Except.ok.inj h)
  | cons n rest ih =>
    obtain ⟨hfits, entries, hloc⟩ := fits_of_follow (hnames n List.mem_cons_self) h
    have hnot := hlinks [] n rest rfl
    rw [List.append_nil, at?_snoc hloc] at hnot
    rw [follow_cons_of_fits hloc hfits] at h
    have hnext : follow top links (loc ++ [n]) rest = .ok (l, some e) := by
      cases hlookup : entries.lookup n with
      | none =>
        rw [hlookup] at h
        dsimp only at h
        split at h <;> cases h
      | some inner =>
        rw [hlookup] at h
        cases inner with
        | link target => exact absurd hlookup (hnot target)
        | file octets | directory inside => exact h
    rw [List.append_cons]
    refine ih (fun m hm => hnames m (List.mem_cons_of_mem n hm)) hnext fun front m back heq target => ?_
    have hfront := hlinks (n :: front) m back (by rw [heq, List.cons_append]) target
    rwa [List.append_cons loc] at hfront

theorem hasDirectory_snoc {above : Location} (htop : t.top.Sound)
    (habove : t.top.at? (loc ++ above) = some (.directory entries)) :
    t.HasDirectory loc (above ++ [name]) ↔ t.HasDirectory (loc ++ above) [name] := by
  rw [HasDirectory, HasDirectory, follow_append htop habove]

/-- A search finds the entries with the name of a source file that lead to no directory, unless a
name above the last one is excluded or that of a link. -/
theorem mem_sourcesIn_iff (htop : t.top.Sound) (hloc : t.top.at? loc = some (.directory entries))
    (hnames : ∀ n ∈ names, IsPlain n) :
    names ∈ sourcesIn t excluded loc [] (.directory entries) ↔
      t.HasEntry loc names ∧ ¬ t.HasDirectory loc names ∧ t.StandsOpen excluded loc names ∧
        ∃ last ∈ names.getLast?, isSourceName last = true := by
  rw [mem_sourcesIn (htop.at? hloc).1, reached_iff htop hloc]
  constructor
  · rintro ⟨above, name, here, inner, rfl, hhere, hname, hinner, ⟨hleads, hsource⟩, hopen⟩
    have hfollow : follow t.top maxLinks loc (above ++ []) = follow t.top maxLinks (loc ++ above) [] :=
      follow_append htop hhere []
    rw [List.append_nil, follow, hhere] at hfollow
    refine ⟨⟨above, name, _, here, inner, rfl, hfollow, hinner⟩, ?_, hopen, name, by simp, hsource⟩
    rw [hasDirectory_snoc htop hhere, ← leadsToDirectory_iff hhere hname hinner, hleads]
    exact Bool.false_ne_true
  · rintro ⟨⟨above, name, l, here, inner, rfl, hfollow, hinner⟩, hnot, hopen, last, hlast, hsource⟩
    have hplain : ∀ n ∈ above, IsPlain n := fun n hn => hnames n (List.mem_append_left _ hn)
    have hopen' := hopen
    rw [StandsOpen, List.dropLast_concat] at hopen'
    have hhere := at?_of_follow hplain hfollow fun front n back heq => (hopen' front n back heq).2
    have hname : Fits name := (htop.at? ((at?_snoc hhere name).trans hinner)).2 name (by simp)
    rw [hasDirectory_snoc htop hhere, ← leadsToDirectory_iff hhere hname hinner,
      Bool.not_eq_true] at hnot
    rw [List.getLast?_concat] at hlast
    exact ⟨above, name, here, inner, rfl, hhere, hname, hinner,
      ⟨hnot, Option.some.inj hlast ▸ hsource⟩, hopen⟩

/-! ### Directories above what is told -/

/-- The directories that a walk goes through are told. -/
theorem told_of_reached {above : Location} (hne : above ≠ [])
    (h : Reached p excluded root [] e (above ++ [name])) : Told t excluded root [] e above := by
  obtain ⟨names, last, inner, hsplit, hnames, hinner, -⟩ := h
  obtain ⟨rfl, -⟩ := List.append_inj' hsplit rfl
  obtain ⟨front, n, rfl⟩ : ∃ front n, above = front ++ [n] :=
    ⟨_, _, (List.dropLast_concat_getLast hne).symm⟩
  obtain ⟨here, hhere⟩ := directory_of_at? hinner
  exact ⟨front, n, _, rfl, fun m hm => hnames m (List.mem_append_left _ hm), hhere, rfl⟩

/-- What stands before the last one of some characters is told by the whole. -/
theorem eq_of_append_cons {c : Char} {front front' back back' : List Char}
    (h : front ++ c :: back = front' ++ c :: back') (hback : c ∉ back) (hback' : c ∉ back') :
    front = front' := by
  rcases List.append_eq_append_iff.mp h with ⟨more, rfl, hrest⟩ | ⟨more, rfl, hrest⟩
  all_goals
    cases more with
    | nil => simp
    | cons d more => ?_
  · exact absurd ((List.cons.inj hrest).2 ▸ by simp) hback
  · exact absurd ((List.cons.inj hrest).2 ▸ by simp) hback'

/-- What stands before the last slash of a path is the path of the names above the last one. -/
theorem exists_above_of_relativeText {parent last : String} (hne : names ≠ [])
    (hnames : ∀ n ∈ names, IsPlain n) (hlast : '/' ∉ last.toList)
    (h : relativeText names = parent ++ "/" ++ last) :
    ∃ above name, names = above ++ [name] ∧ above ≠ [] ∧ relativeText above = parent := by
  obtain ⟨above, name, rfl⟩ : ∃ above name, names = above ++ [name] :=
    ⟨_, _, (List.dropLast_concat_getLast hne).symm⟩
  have hname : '/' ∉ name.toList := (hnames name (by simp)).notMem
  have hslash (front back : String) :
      (front ++ "/" ++ back).toList = front.toList ++ '/' :: back.toList := by simp
  have habove : above ≠ [] := by
    rintro rfl
    rw [relativeText, List.nil_append, String.intercalate_singleton] at h
    rw [h, hslash] at hname
    exact hname (by simp)
  rw [relativeText, String.intercalate_append_of_ne_nil habove (List.cons_ne_nil name []),
    String.intercalate_singleton] at h
  have htexts := congrArg String.toList h
  rw [hslash, hslash] at htexts
  exact ⟨above, name, rfl, habove, String.toList_inj.mp (eq_of_append_cons htexts hname hlast)⟩

/-! ### Both walks -/

theorem sources_of_find {root : String}
    (h : t.find (Path.ofString root).text = .ok (loc, .directory entries)) :
    t.sources root excluded = .ok
      (Sorting.strings ((sourcesIn t excluded loc [] (.directory entries)).map relativeText), []) := by
  rw [sources, walk, (walkRoot_of_find h).1]
  rfl

/-- **Walks are exact and agree.** From a directory, whatever names are excluded, a search finds the
paths of the source files, in strict order, and a snapshot those of the directories, each unless a
name above the last one is excluded or that of a link. What stands before the last slash of one of
these paths is the path of a directory of the snapshot. -/
theorem walks_exact (htop : t.top.Sound) (excluded : List String) {root : String}
    (hroot : t.find (Path.ofString root).text = .ok (loc, .directory entries)) :
    ∃ paths found, t.sources root excluded = .ok (paths, []) ∧
      t.snapshot root excluded = .ok (found, []) ∧ paths.Pairwise (· < ·) ∧
      (∀ path, path ∈ paths ↔ ∃ names, (∀ n ∈ names, IsPlain n) ∧ relativeText names = path ∧
        t.HasEntry loc names ∧ ¬ t.HasDirectory loc names ∧ t.StandsOpen excluded loc names ∧
        ∃ last ∈ names.getLast?, isSourceName last = true) ∧
      (∀ path, path ∈ found.directories ↔ ∃ names, names ≠ [] ∧ (∀ n ∈ names, IsPlain n) ∧
        relativeText names = path ∧ t.HasDirectory loc names ∧ t.StandsOpen excluded loc names) ∧
      ∀ parent last, '/' ∉ last.toList →
        (parent ++ "/" ++ last ∈ paths ∨ parent ++ "/" ++ last ∈ found.directories) →
          parent ∈ found.directories := by
  have hloc := (walkRoot_of_find hroot).2
  have hsound : (directory entries).Sound := (htop.at? hloc).1
  have hsource {names : List String} (h : names ∈ sourcesIn t excluded loc [] (directory entries)) :=
    plain_of_reached hsound ((mem_sourcesIn hsound).mp h)
  have htold {names : List String} (h : names ∈ directoriesIn t excluded loc [] (directory entries)) :=
    plain_of_reached hsound (told_iff_reached.mp ((mem_directoriesIn hsound).mp h))
  -- Above what is reached there are only directories that are told.
  have hparent {p : Location → String → Entry → Prop} {names : List String} {parent last : String}
      (hreached : Reached p excluded loc [] (directory entries) names) (hlast : '/' ∉ last.toList)
      (h : relativeText names = parent ++ "/" ++ last) :
      parent ∈ (directoriesIn t excluded loc [] (directory entries)).map relativeText := by
    obtain ⟨hne, hplain⟩ := plain_of_reached hsound hreached
    obtain ⟨above, name, rfl, habove, rfl⟩ := exists_above_of_relativeText hne hplain hlast h
    exact List.mem_map_of_mem ((mem_directoriesIn hsound).mpr (told_of_reached habove hreached))
  refine ⟨_, _, sources_of_find hroot, snapshot_of_find hroot, ?_, fun path => ?_, fun path => ?_, ?_⟩
  · refine Sorting.pairwise_lt_strings (List.Nodup.map_on (fun names hnames others hothers heq => ?_)
      (nodup_sourcesIn hsound))
    exact relativeText_inj (hsource hnames).2 (hsource hothers).2 heq
  · rw [Sorting.strings, Sorting.mem_sort, List.mem_map]
    refine exists_congr fun names => ⟨fun ⟨hnames, heq⟩ => ?_, fun ⟨hplain, heq, h⟩ => ?_⟩
    · exact ⟨(hsource hnames).2, heq, (mem_sourcesIn_iff htop hloc (hsource hnames).2).mp hnames⟩
    · exact ⟨(mem_sourcesIn_iff htop hloc hplain).mpr h, heq⟩
  · rw [List.mem_map]
    refine exists_congr fun names => ⟨fun ⟨hnames, heq⟩ => ?_, fun ⟨hne, hplain, heq, h⟩ => ?_⟩
    · obtain ⟨hne, hplain⟩ := htold hnames
      exact ⟨hne, hplain, heq, (mem_directoriesIn_iff htop hloc hne hplain).mp hnames⟩
    · exact ⟨(mem_directoriesIn_iff htop hloc hne hplain).mpr h, heq⟩
  · rintro parent last hlast (hpath | hpath)
    · obtain ⟨names, hnames, heq⟩ := List.mem_map.mp (Sorting.mem_sort.mp hpath)
      exact hparent ((mem_sourcesIn hsound).mp hnames) hlast heq
    · obtain ⟨names, hnames, heq⟩ := List.mem_map.mp hpath
      exact hparent (told_iff_reached.mp ((mem_directoriesIn hsound).mp hnames)) hlast heq

/-- A directory with an excluded one, one that is named like a source file, a link to a directory and
one to nothing. -/
def crossedEntries : List (String × Entry) := [
  ("a.py", .file []), ("b.txt", .file []), ("build", .directory [("c.py", .file [])]),
  ("gone.py", .link "nowhere"), ("out", .link "pkg"),
  ("pkg", .directory [("m.py", .file []), ("x.py", .directory [("n.py", .file [])])])]

def crossed : FileTree := ⟨.directory [("p", .directory crossedEntries)], ["p"], []⟩

theorem leadsToDirectory_crossed :
    crossed.leadsToDirectory ["p"] "gone.py" (.link "nowhere") = false ∧
      crossed.leadsToDirectory ["p"] "out" (.link "pkg") = true := by
  have hgone : follow crossed.top maxLinks ["p"] ["gone.py"] = .ok (["p", "nowhere"], none) := by
    rw [follow_cons_of_fits rfl (by decide)]
    change follow crossed.top 39 ["p"] ["nowhere"] = _
    rw [follow_cons_of_fits rfl (by decide)]
    rfl
  have hout : ∃ inside, follow crossed.top maxLinks ["p"] ["out"] =
      .ok (["p", "pkg"], some (.directory inside)) := by
    rw [follow_cons_of_fits rfl (by decide)]
    change ∃ inside, follow crossed.top 39 ["p"] ["pkg"] = .ok (_, some (.directory inside))
    rw [follow_directory rfl (by decide) rfl, follow]
    exact ⟨_, rfl⟩
  obtain ⟨inside, hout⟩ := hout
  rw [leadsToDirectory, hgone, leadsToDirectory, hout]
  exact ⟨rfl, rfl⟩

theorem walks_of_crossed :
    crossed.top.Sound ∧
      crossed.find (Path.ofString ".").text = .ok (["p"], .directory crossedEntries) ∧
      ∃ paths found, crossed.sources "." ["build"] = .ok (paths, []) ∧
        crossed.snapshot "." ["build"] = .ok (found, []) ∧
        paths = ["a.py", "gone.py", "pkg/m.py", "pkg/x.py/n.py"] ∧
        found.directories = ["build", "out", "pkg", "pkg/x.py"] ∧ paths.Pairwise (· < ·) ∧
        "pkg/x.py" ∈ found.directories := by
  have hsound : crossed.top.Sound := by
    simp only [crossed, crossedEntries, Entry.Sound, SoundAmong]
    decide
  have hroot : crossed.find (Path.ofString ".").text = .ok (["p"], .directory crossedEntries) :=
    (congrArg crossed.find (by decide)).trans (find_point rfl)
  have hsources : sourcesIn crossed ["build"] ["p"] [] (.directory crossedEntries) =
      [["a.py"], ["gone.py"], ["pkg", "m.py"], ["pkg", "x.py", "n.py"]] := by
    simp only [crossedEntries, sourcesIn, sourcesAmong, List.append_nil, leadsToDirectory_crossed]
    decide
  have hdirectories : directoriesIn crossed ["build"] ["p"] [] (.directory crossedEntries) =
      [["build"], ["out"], ["pkg"], ["pkg", "x.py"]] := by
    simp only [crossedEntries, directoriesIn, directoriesAmong, List.append_nil,
      leadsToDirectory_crossed]
    decide
  obtain ⟨paths, found, hpaths, hfound, hsorted, -, -, hparents⟩ := walks_exact hsound ["build"] hroot
  have hpaths' := (sources_of_find hroot).symm.trans hpaths
  have hfound' := (snapshot_of_find hroot).symm.trans hfound
  rw [hsources] at hpaths'
  rw [hdirectories] at hfound'
  cases hpaths'
  cases hfound'
  exact ⟨hsound, hroot, _, _, hpaths, hfound, by decide, by decide, hsorted,
    hparents "pkg/x.py" "n.py" (by decide) (.inl (by decide))⟩

end SourceConventions.FileTree
