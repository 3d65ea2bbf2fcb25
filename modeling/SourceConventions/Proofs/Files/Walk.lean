import SourceConventions.Files.Walk
import SourceConventions.Proofs.Sorting

/-!
# What walks find

All walks from one root fail together. What a search for source files finds ends in the ending of a
source file, and so has a name.
-/

namespace SourceConventions

namespace FileTree

variable {t : FileTree} {root : String} {excluded excluded' : List String}

/-- A walk fails only if its root cannot be a path. -/
theorem walk_ok_iff (found : Location → Entry → List Location) :
    (∃ answer, t.walk root found = .ok answer) ↔ t.walkRoot root ≠ .error .nullInPath := by
  rw [walk]
  split
  next h => simp [h]
  next f hf h =>
    rw [h]
    exact ⟨fun _ heq => hf (Except.error.inj heq), fun _ => ⟨_, rfl⟩⟩
  next h =>
    rw [h]
    exact ⟨fun _ heq => (by cases heq), fun _ => ⟨_, rfl⟩⟩

theorem snapshot_ok_of_sources {answer : List String × List LogEntry}
    (h : t.sources root excluded = .ok answer) :
    ∃ answer', t.snapshot root excluded' = .ok answer' := by
  rw [sources] at h
  cases hwalk : t.walk (Path.ofString root).text fun loc e => sourcesIn t excluded loc [] e with
  | error f => rw [hwalk] at h; cases h
  | ok paths =>
    have hroot := (walk_ok_iff _).mp ⟨paths, hwalk⟩
    obtain ⟨directories, hdirectories⟩ :=
      (walk_ok_iff fun loc e => directoriesIn t excluded' loc [] e).mpr hroot
    rw [snapshot, hdirectories]
    exact ⟨_, rfl⟩

/-! ### The names of source files -/

/-- A location whose last name is that of a source file. -/
def LeadsToSource (loc : Location) : Prop := ∃ below name, loc = below ++ [name] ∧ isSourceName name

mutual

theorem leadsToSource_of_sourcesIn {root below loc : Location} :
    ∀ {e : Entry}, loc ∈ sourcesIn t excluded root below e → LeadsToSource loc
  | .directory _, h => leadsToSource_of_sourcesAmong h
  | .file _, h => nomatch h
  | .link _, h => nomatch h

theorem leadsToSource_of_sourcesAmong {root below loc : Location} :
    ∀ {entries : List (String × Entry)},
      loc ∈ sourcesAmong t excluded root below entries → LeadsToSource loc
  | [], h => nomatch h
  | (name, e) :: rest, h => by
    rcases List.mem_append.mp h with h | h
    · split at h
      · split at h
        · cases h
        · exact leadsToSource_of_sourcesIn h
      · split at h
        case isTrue hname => exact ⟨below, name, List.mem_singleton.mp h, hname⟩
        case isFalse => cases h
    · exact leadsToSource_of_sourcesAmong h

end

theorem ending_of_leadsToSource {loc : Location} (h : LeadsToSource loc) :
    sourceEnding <:+ (relativeText loc).toList := by
  obtain ⟨below, name, rfl, hname⟩ := h
  have hend : sourceEnding <:+ name.toList := List.isSuffixOf_iff_suffix.mp hname
  by_cases hbelow : below = []
  · subst hbelow
    simpa [relativeText] using hend
  · rw [relativeText, String.intercalate_append_of_ne_nil hbelow (List.cons_ne_nil name []),
      String.intercalate_singleton, String.toList_append]
    exact List.suffix_append_of_suffix hend

/-- What is found is told by paths that end in the ending of a source file. -/
theorem ending_of_mem_sources {paths : List String} {logs : List LogEntry}
    (h : t.sources root excluded = .ok (paths, logs)) {path : String} (hpath : path ∈ paths) :
    sourceEnding <:+ path.toList := by
  rw [sources, walk] at h
  split at h
  · cases h
  · cases h
    cases hpath
  next loc e _ =>
    cases h
    obtain ⟨l, hl, rfl⟩ := List.mem_map.mp (Sorting.mem_sort.mp hpath)
    exact ending_of_leadsToSource (leadsToSource_of_sourcesIn hl)

end FileTree

namespace Path

theorem exists_mem_split_of_ending (front taken : List Char) :
    ∃ name ∈ split taken (front ++ FileTree.sourceEnding), FileTree.sourceEnding <:+ name := by
  induction front generalizing taken with
  | nil => exact ⟨_, List.mem_singleton_self _, taken.reverse, by simp [FileTree.sourceEnding]⟩
  | cons c rest ih =>
    rw [List.cons_append, split]
    split
    · obtain ⟨name, hname, hend⟩ := ih []
      exact ⟨name, List.mem_cons_of_mem _ hname, hend⟩
    · exact ih (c :: taken)

/-- The path of a source file has a last name. -/
theorem moduleName?_ok_of_ending {path : String} (h : FileTree.sourceEnding <:+ path.toList) :
    ∃ name, moduleName? path = .ok name := by
  obtain ⟨front, hfront⟩ := h
  have hslashed : (slashed path).toList =
      front.map (fun c => if c = '\\' then '/' else c) ++ FileTree.sourceEnding := by
    rw [slashed, String.toList_ofList, ← hfront, List.map_append]
    rfl
  obtain ⟨name, hname, hend⟩ := exists_mem_split_of_ending
    (front.map fun c => if c = '\\' then '/' else c) []
  have hkept : String.ofList name ∈ (ofString (slashed path)).names := by
    have hne : name ≠ [] := by
      rintro rfl
      exact absurd (List.suffix_nil.mp hend) (List.cons_ne_nil _ _)
    have hpoint : name ≠ ['.'] := by
      rintro rfl
      exact absurd hend.length_le (by decide)
    refine List.mem_map.mpr ⟨name, List.mem_filter.mpr ⟨hslashed ▸ hname, ?_⟩, rfl⟩
    simp [hne, hpoint]
  have hnames := List.ne_nil_of_mem hkept
  rw [moduleName?]
  dsimp only
  rw [if_neg hnames]
  exact ⟨_, rfl⟩

end Path

end SourceConventions
