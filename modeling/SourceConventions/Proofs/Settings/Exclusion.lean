import Mathlib.Data.List.TakeWhile
import SourceConventions.Proofs.Glob.Matching
import SourceConventions.Settings.OfTable

/-!
# What the settings exclude

A path is excluded by a glob that it matches, or by one that a directory above it matches, slashes
at the end of the glob aside. Whatever is below an excluded path is excluded.
-/

namespace SourceConventions

namespace Glob

theorem exists_eq_withoutFinalSlashes_append (glob : List Char) :
    ∃ n, glob = withoutFinalSlashes glob ++ List.replicate n '/' := by
  have hslashes : ∀ c ∈ (glob.reverse.takeWhile (· == '/')).reverse, c = '/' := by
    intro c hc
    simpa using List.mem_takeWhile_imp (List.mem_reverse.mp hc)
  refine ⟨(glob.reverse.takeWhile (· == '/')).reverse.length, ?_⟩
  rw [withoutFinalSlashes, ← List.eq_replicate_of_mem hslashes, ← List.reverse_append,
    List.takeWhile_append_dropWhile, List.reverse_reverse]

theorem covers_iff {glob path : String} :
    covers glob path = true ↔
      Matches glob.toList (plainPath path) ∨
        Matches (withoutFinalSlashes glob.toList) (plainPath path) ∨
        ∃ front rest, plainPath path = front ++ '/' :: rest ∧
          Matches (withoutFinalSlashes glob.toList) front := by
  simp only [covers, Bool.or_eq_true, accepts_iff, matches_append_slash_star_iff, or_assoc]

theorem map_slashed_ne {d : String} (hd : d ≠ ".") :
    d.toList.map (fun c => if c == '\\' then '/' else c) ≠ ['.'] := by
  intro h
  obtain ⟨c, htext, hc⟩ := List.map_eq_singleton_iff.mp h
  obtain rfl : c = '.' := by
    split at hc
    · cases hc
    · exact hc
  exact hd (String.toList_inj.mp htext)

/-- What is below a path is below its plain form, if the path is not the dot that goes together
with a slash behind it. -/
theorem exists_plainPath_below {d : String} (hd : d ≠ ".") (r : String) :
    ∃ rest, plainPath (d ++ "/" ++ r) = plainPath d ++ '/' :: rest := by
  have hds := map_slashed_ne hd
  simp only [plainPath, String.toList_append, List.map_append]
  generalize d.toList.map (fun c => if c == '\\' then '/' else c) = ds at hds ⊢
  refine ⟨r.toList.map (fun c => if c == '\\' then '/' else c), ?_⟩
  cases ds with
  | nil => rfl
  | cons c ds =>
    by_cases hc : c = '.'
    · subst hc
      cases ds with
      | nil => exact absurd rfl hds
      | cons c ds =>
        by_cases hc : c = '/'
        · subst hc
          simp
        · simp [hc]
    · simp [hc]

theorem covers_below {glob d : String} (hd : d ≠ ".") (r : String) (h : covers glob d = true) :
    covers glob (d ++ "/" ++ r) = true := by
  obtain ⟨rest, hrest⟩ := exists_plainPath_below hd r
  rw [covers_iff] at h ⊢
  rw [hrest]
  right
  right
  obtain h | h | ⟨front, back, hpath, hfront⟩ := h
  · obtain ⟨n, hn⟩ := exists_eq_withoutFinalSlashes_append glob.toList
    rw [hn, matches_append_slashes_iff] at h
    obtain ⟨front, hpath, hfront⟩ := h
    cases n with
    | zero => exact ⟨front, rest, by simp [hpath], hfront⟩
    | succ n =>
      exact ⟨front, List.replicate n '/' ++ '/' :: rest, by simp [hpath, List.replicate_succ],
        hfront⟩
  · exact ⟨plainPath d, rest, rfl, h⟩
  · exact ⟨front, back ++ '/' :: rest, by rw [hpath, List.append_assoc, List.cons_append], hfront⟩

end Glob

namespace Settings

theorem excludes_subtrees (s : Settings) :
    (∀ path, s.excludes path = true ↔
      ∃ glob ∈ s.exclude,
        Glob.Matches glob.toList (Glob.plainPath path) ∨
        Glob.Matches (Glob.withoutFinalSlashes glob.toList) (Glob.plainPath path) ∨
        ∃ front rest, Glob.plainPath path = front ++ '/' :: rest ∧
          Glob.Matches (Glob.withoutFinalSlashes glob.toList) front) ∧
    ∀ d r, d ≠ "." → s.excludes d = true → s.excludes (d ++ "/" ++ r) = true := by
  constructor
  · intro path
    simp only [excludes, List.any_eq_true, Glob.covers_iff]
  · intro d r hd h
    obtain ⟨glob, hglob, hcovers⟩ := List.any_eq_true.mp h
    exact List.any_eq_true.mpr ⟨glob, hglob, Glob.covers_below hd r hcovers⟩

/-- Settings with a negated set of two ranges, and with a bracket that only what is put behind the
glob could close. -/
def builtAside : Settings := { defaults with exclude := ["*/[!c-ex-z]uil?/", "gen["] }

theorem excludes_subtrees_of_builtAside :
    (builtAside.excludes "app/build" = true ∧
      builtAside.excludes ("app/build" ++ "/" ++ "x.py") = true) ∧
    builtAside.excludes "gen[" = true ∧ builtAside.excludes ("gen[" ++ "/" ++ "]") = true :=
  have below := (excludes_subtrees builtAside).2
  have hbuild : builtAside.excludes "app/build" = true := by decide
  have hgen : builtAside.excludes "gen[" = true := by decide
  ⟨⟨hbuild, below "app/build" "x.py" (by decide) hbuild⟩, hgen,
    below "gen[" "]" (by decide) hgen⟩

end Settings

end SourceConventions
