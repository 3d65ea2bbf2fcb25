import SourceConventions.Files.Writing

/-!
# What is written is read back

A file that is written at the end of a path is found at the end of the same path: no directory and
no link on the way there is changed. A text in UTF-8 is written as a whole or not at all.
-/

namespace SourceConventions

namespace Entry

variable {e new : Entry} {name other : String} {l loc : Location}

theorem lookup_cons_ite (entries : List (String × Entry)) :
    List.lookup other ((name, e) :: entries) =
      if other = name then some e else entries.lookup other := by
  rw [List.lookup_cons]
  by_cases h : other = name
  · rw [if_pos h, beq_iff_eq.mpr h]
  · rw [if_neg h, beq_eq_false_iff_ne.mpr h]

theorem lookup_putChild (name : String) (new : Entry) (entries : List (String × Entry))
    (other : String) :
    (putChild name new entries).lookup other =
      if other = name then some new else entries.lookup other := by
  induction entries with
  | nil => rw [putChild, lookup_cons_ite]
  | cons head rest ih =>
    obtain ⟨n, e⟩ := head
    rw [putChild]
    by_cases hn : n = name
    · subst hn
      rw [if_pos rfl, lookup_cons_ite, lookup_cons_ite]
      by_cases h : other = n
      · rw [if_pos h, if_pos h]
      · rw [if_neg h, if_neg h, if_neg h]
    · rw [if_neg hn, lookup_cons_ite, lookup_cons_ite, ih]
      by_cases h : other = n
      · have hother : other ≠ name := h ▸ hn
        rw [if_pos h, if_neg hother, if_pos h]
      · rw [if_neg h, if_neg h]

theorem at?_append (l l' : Location) (e : Entry) : e.at? (l ++ l') = (e.at? l).bind (at? l') := by
  induction l generalizing e with
  | nil => rfl
  | cons name rest ih =>
    rw [List.cons_append, at?, at?]
    cases e.child? name with
    | none => rfl
    | some inner => exact ih inner

theorem at?_snoc {entries : List (String × Entry)} (h : e.at? l = some (.directory entries))
    (name : String) : e.at? (l ++ [name]) = entries.lookup name := by
  rw [at?_append, h]
  change (entries.lookup name).bind (at? []) = entries.lookup name
  cases entries.lookup name <;> rfl

/-- What is above an entry is a directory. -/
theorem directory_of_at? {inner : Entry} {rest : Location}
    (h : e.at? (l ++ name :: rest) = some inner) : ∃ entries, e.at? l = some (.directory entries) := by
  rw [at?_append] at h
  cases hl : e.at? l with
  | none => rw [hl] at h; cases h
  | some outer =>
    cases outer with
    | directory entries => exact ⟨entries, rfl⟩
    | file octets => rw [hl] at h; cases h
    | link target => rw [hl] at h; cases h

theorem at?_put_self (new : Entry) (loc : Location) (e : Entry) : (put new loc e).at? loc = some new := by
  induction loc generalizing e with
  | nil => rfl
  | cons name rest ih =>
    cases e with
    | directory entries =>
      rw [put, at?, child?, lookup_putChild, if_pos rfl]
      exact ih _
    | file octets | link target =>
      change at? (name :: rest) (.directory [(name, put new rest (.directory []))]) = some new
      rw [at?, child?, lookup_cons_ite, if_pos rfl]
      exact ih _

/-- A directory above the place where something is put stays one. -/
theorem at?_put_above (new : Entry) {entries : List (String × Entry)}
    (h : e.at? l = some (.directory entries)) (name : String) (rest : Location) :
    ∃ entries', (put new (l ++ name :: rest) e).at? l = some (.directory entries') := by
  induction l generalizing e with
  | nil =>
    cases h
    exact ⟨_, rfl⟩
  | cons n rest' ih =>
    cases e with
    | directory outer =>
      rw [at?, child?] at h
      obtain ⟨inner, hinner, h⟩ := Option.bind_eq_some_iff.mp h
      rw [List.cons_append, put, at?, child?, lookup_putChild, if_pos rfl, hinner]
      exact ih h
    | file octets => cases h
    | link target => cases h

/-- What stands apart from the place where something is put stays as it is. -/
theorem at?_put_apart (new : Entry) {inner : Entry} (h : e.at? l = some inner)
    (habove : ¬ l <+: loc) (hbelow : ¬ loc <+: l) : (put new loc e).at? l = some inner := by
  induction loc generalizing e l with
  | nil => exact absurd List.nil_prefix hbelow
  | cons name rest ih =>
    cases l with
    | nil => exact absurd List.nil_prefix habove
    | cons n rest' =>
      cases e with
      | directory outer =>
        rw [at?, child?] at h
        obtain ⟨middle, hmiddle, h⟩ := Option.bind_eq_some_iff.mp h
        rw [put, at?, child?, lookup_putChild]
        by_cases hn : n = name
        · subst hn
          rw [if_pos rfl, hmiddle]
          refine ih h (fun hp => habove ?_) (fun hp => hbelow ?_)
          · exact (List.prefix_cons_inj n).mpr hp
          · exact (List.prefix_cons_inj n).mpr hp
        · rw [if_neg hn, hmiddle]
          exact h
      | file octets => cases h
      | link target => cases h

/-- A place in a tree all of whose names above the last one are those of directories. -/
def Reaches (top : Entry) (loc : Location) : Prop :=
  ∀ l name rest, loc = l ++ name :: rest → ∃ entries, top.at? l = some (.directory entries)

theorem reaches_of_at? (h : e.at? loc = some new) : e.Reaches loc := by
  rintro l name rest rfl
  exact directory_of_at? h

theorem reaches_snoc {entries : List (String × Entry)} (h : e.at? l = some (.directory entries))
    (name : String) : e.Reaches (l ++ [name]) := by
  intro l' name' rest' heq
  rcases List.eq_nil_or_concat rest' with rfl | ⟨rest, last, rfl⟩
  · obtain ⟨rfl, -⟩ := List.append_inj' heq rfl
    exact ⟨entries, h⟩
  · rw [List.concat_eq_append, ← List.cons_append, ← List.append_assoc] at heq
    obtain ⟨rfl, -⟩ := List.append_inj' heq rfl
    exact directory_of_at? h

section Put

variable {top : Entry} (hreaches : top.Reaches loc)
  (hfree : ∀ entries, top.at? loc ≠ some (.directory entries))
include hreaches hfree

/-- Putting something in the place of no directory leaves all directories directories. -/
theorem exists_directory_put {entries : List (String × Entry)}
    (h : top.at? l = some (.directory entries)) :
    ∃ entries', (put new loc top).at? l = some (.directory entries') := by
  by_cases habove : l <+: loc
  · obtain ⟨rest, rfl⟩ := habove
    cases rest with
    | nil =>
      rw [List.append_nil] at hfree
      exact absurd h (hfree entries)
    | cons name rest => exact at?_put_above new h name rest
  by_cases hbelow : loc <+: l
  · obtain ⟨rest, rfl⟩ := hbelow
    cases rest with
    | nil => exact absurd (by simp) habove
    | cons name rest =>
      obtain ⟨outer, houter⟩ := directory_of_at? h
      exact absurd houter (hfree outer)
  exact ⟨entries, at?_put_apart new h habove hbelow⟩

/-- What is no directory stays as it is, unless something is put in its place. -/
theorem at?_put_of_ne (hne : l ≠ loc) (h : top.at? l = some e)
    (he : ∀ entries, e ≠ .directory entries) : (put new loc top).at? l = some e := by
  refine at?_put_apart new h ?_ ?_
  · rintro ⟨rest, rfl⟩
    cases rest with
    | nil => exact hne (List.append_nil l).symm
    | cons name rest =>
      obtain ⟨entries, hentries⟩ := hreaches l name rest rfl
      exact he entries (Option.some.inj (h.symm.trans hentries))
  · rintro ⟨rest, rfl⟩
    cases rest with
    | nil => exact hne (List.append_nil loc)
    | cons name rest =>
      obtain ⟨outer, houter⟩ := directory_of_at? h
      exact hfree outer houter

end Put

end Entry

namespace FileTree

open Entry

/-! ### Where paths lead -/

/-- A place to which a path can lead: nothing on the way to it is missing, and there is no link. -/
structure Arrives (top : Entry) (loc : Location) : Prop where
  reaches : top.Reaches loc
  no_link : ∀ target, top.at? loc ≠ some (.link target)

theorem arrives_of_at? {top e : Entry} {loc : Location} (h : top.at? loc = some e)
    (he : ∀ target, e ≠ .link target) : Arrives top loc := by
  refine ⟨reaches_of_at? h, fun target htarget => ?_⟩
  rw [h] at htarget
  exact he target (Option.some.inj htarget)

theorem split_ne_nil (taken cs : List Char) {last : Char} (h : last ≠ '/') :
    ∃ part ∈ Path.split taken (cs ++ [last]), part ≠ [] := by
  induction cs generalizing taken with
  | nil =>
    rw [List.nil_append, Path.split, if_neg h, Path.split]
    exact ⟨_, List.mem_cons_self, by simp⟩
  | cons c rest ih =>
    rw [List.cons_append, Path.split]
    split
    · obtain ⟨part, hpart, hne⟩ := ih []
      exact ⟨part, List.mem_cons_of_mem _ hpart, hne⟩
    · exact ih (c :: taken)

/-- Every path but the empty one has a name to follow. -/
theorem steps_ne_nil {path : String} (h : path ≠ "") : steps path ≠ [] := by
  rw [steps]
  rcases List.eq_nil_or_concat path.toList with hnil | ⟨cs, last, hconcat⟩
  · exact absurd (String.toList_eq_nil_iff.mp hnil) h
  rw [List.concat_eq_append] at hconcat
  rw [hconcat, List.getLast?_concat]
  by_cases hlast : last = '/'
  · rw [if_pos (congrArg some hlast)]
    exact List.append_ne_nil_of_right_ne_nil _ (List.cons_ne_nil _ _)
  · rw [if_neg fun heq => hlast (Option.some.inj heq)]
    obtain ⟨part, hpart, hne⟩ := split_ne_nil [] cs hlast
    have hkept : part ∈ (Path.split [] (cs ++ [last])).filter (!·.isEmpty) :=
      List.mem_filter.mpr ⟨hpart, by simpa using hne⟩
    exact List.ne_nil_of_mem (List.mem_map_of_mem hkept)

variable {top : Entry} {links : Nat} {loc loc' : Location} {names : List String} {e? : Option Entry}

theorem exists_directory_dropLast {entries : List (String × Entry)}
    (h : top.at? loc = some (.directory entries)) :
    ∃ entries', top.at? loc.dropLast = some (.directory entries') := by
  rcases List.eq_nil_or_concat loc with rfl | ⟨above, name, rfl⟩
  · exact ⟨entries, h⟩
  · rw [List.concat_eq_append] at h ⊢
    rw [List.dropLast_concat]
    exact directory_of_at? h

/-- What is found at the end of a way is what is there, and unless no name is followed, it is a
place to which a path can lead. -/
theorem follow_spec (h : follow top links loc names = .ok (loc', e?)) :
    e? = top.at? loc' ∧ (names = [] ∧ loc' = loc ∨ Arrives top loc') := by
  have hdirectory {l : Location} {entries : List (String × Entry)}
      (hl : top.at? l = some (.directory entries)) : Arrives top l := arrives_of_at? hl (nofun)
  fun_induction follow top links loc names with
  | case1 => cases h; exact ⟨rfl, .inl ⟨rfl, rfl⟩⟩
  | case2 links loc rest entries hloc ih =>
    obtain ⟨he, ⟨-, rfl⟩ | harrives⟩ := ih h
    · exact ⟨he, .inr (hdirectory hloc)⟩
    · exact ⟨he, .inr harrives⟩
  | case3 links loc rest entries hloc _ ih =>
    obtain ⟨he, ⟨-, rfl⟩ | harrives⟩ := ih h
    · obtain ⟨above, habove⟩ := exists_directory_dropLast hloc
      exact ⟨he, .inr (hdirectory habove)⟩
    · exact ⟨he, .inr harrives⟩
  | case5 links loc name entries hloc _ _ _ hname =>
    cases h
    have hnone : top.at? (loc ++ [name]) = none := (at?_snoc hloc name).trans hname
    refine ⟨hnone.symm, .inr ⟨reaches_snoc hloc name, fun target htarget => ?_⟩⟩
    rw [hnone] at htarget
    cases htarget
  | case8 loc name rest entries hloc _ _ _ target hname links ih =>
    simp only [dite_eq_ite] at ih
    obtain ⟨he, ⟨hnames, hend⟩ | harrives⟩ := ih h
    · by_cases habsolute : isAbsolute target = true
      · have htarget : target ≠ "" := by
          rintro rfl
          cases habsolute
        exact absurd (List.append_eq_nil_iff.mp hnames).1 (steps_ne_nil htarget)
      · rw [if_neg habsolute] at hend
        exact ⟨he, .inr (hend ▸ hdirectory hloc)⟩
    · exact ⟨he, .inr harrives⟩
  | case9 links loc name rest entries hloc _ _ _ inner hinner hname ih =>
    obtain ⟨he, ⟨-, rfl⟩ | harrives⟩ := ih h
    · exact ⟨he, .inr (arrives_of_at? ((at?_snoc hloc name).trans hname) hinner)⟩
    · exact ⟨he, .inr harrives⟩
  | _ => cases h

/-! ### Files that are written -/

/-- Where there is no directory a file can be put, and then the same way leads to it. -/
theorem follow_put {octets : Octets} (harrives : Arrives top loc')
    (hfree : ∀ entries, top.at? loc' ≠ some (.directory entries))
    (h : follow top links loc names = .ok (loc', e?)) :
    follow (put (.file octets) loc' top) links loc names = .ok (loc', some (.file octets)) := by
  have hself := at?_put_self (.file octets) loc' top
  have hdirectory {l : Location} {entries : List (String × Entry)}
      (hl : top.at? l = some (.directory entries)) :
      ∃ entries', (put (.file octets) loc' top).at? l = some (.directory entries') :=
    exists_directory_put harrives.reaches hfree hl
  fun_induction follow top links loc names with
  | case1 =>
    cases h
    rw [follow, hself]
  | case2 links loc rest entries hloc ih =>
    obtain ⟨entries', hloc'⟩ := hdirectory hloc
    rw [follow, hloc']
    exact ih h
  | case3 links loc rest entries hloc hpoint ih =>
    obtain ⟨entries', hloc'⟩ := hdirectory hloc
    rw [follow, hloc']
    exact ih h
  | case5 links loc name entries hloc hpoint hpoints hsize hname =>
    cases h
    obtain ⟨entries', hloc'⟩ := hdirectory hloc
    have hname' : entries'.lookup name = some (.file octets) := (at?_snoc hloc' name).symm.trans hself
    rw [follow, hloc']
    dsimp only
    rw [if_neg hpoint, if_neg hpoints, if_neg hsize, hname']
    dsimp only
    rw [follow, hself]
  | case8 loc name rest entries hloc hpoint hpoints hsize target hname links ih =>
    simp only [dite_eq_ite] at ih
    obtain ⟨entries', hloc'⟩ := hdirectory hloc
    have hlink := (at?_snoc hloc name).trans hname
    have hne : loc ++ [name] ≠ loc' := fun heq => harrives.no_link target (heq ▸ hlink)
    have hname' : entries'.lookup name = some (.link target) :=
      (at?_snoc hloc' name).symm.trans
        (at?_put_of_ne harrives.reaches hfree hne hlink nofun)
    rw [follow, hloc']
    dsimp only
    rw [if_neg hpoint, if_neg hpoints, if_neg hsize, hname']
    exact ih h
  | case9 links loc name rest entries hloc hpoint hpoints hsize inner hinner hname ih =>
    obtain ⟨entries', hloc'⟩ := hdirectory hloc
    have hthere := (at?_snoc hloc name).trans hname
    have hname' : ∃ inner', entries'.lookup name = some inner' ∧ ∀ target, inner' ≠ .link target := by
      rw [← at?_snoc hloc' name]
      by_cases heq : loc ++ [name] = loc'
      · rw [heq]
        exact ⟨_, hself, nofun⟩
      · cases inner with
        | directory among =>
          obtain ⟨among', hamong⟩ := hdirectory hthere
          exact ⟨_, hamong, nofun⟩
        | file other =>
          exact ⟨_, at?_put_of_ne harrives.reaches hfree heq hthere nofun, nofun⟩
        | link target => exact absurd rfl (hinner target)
    obtain ⟨inner', hname', hinner'⟩ := hname'
    rw [follow, hloc']
    dsimp only
    rw [if_neg hpoint, if_neg hpoints, if_neg hsize, hname']
    cases inner' with
    | link target => exact absurd rfl (hinner' target)
    | file other => exact ih h
    | directory among => exact ih h
  | _ => cases h

variable {t t' : FileTree} {path : String} {octets : Octets}

theorem trace_spec (h : t.trace path = .ok (loc, e?)) : e? = t.top.at? loc ∧ Arrives t.top loc := by
  rw [trace] at h
  split at h
  case isTrue => cases h
  case isFalse hpath =>
    split at h
    case isTrue => cases h
    case isFalse =>
      split at h
      case isTrue => cases h
      case isFalse =>
        obtain ⟨he, ⟨hnames, -⟩ | harrives⟩ := follow_spec h
        · exact absurd hnames (steps_ne_nil hpath)
        · exact ⟨he, harrives⟩

theorem write_of_trace (htrace : t.trace path = .ok (loc, e?))
    (hfree : ∀ entries, e? ≠ some (.directory entries)) (octets : Octets) :
    t.write path octets = .ok { t with top := put (.file octets) loc t.top } := by
  rw [write, htrace]
  cases e? with
  | none => rfl
  | some e =>
    cases e with
    | directory entries => exact absurd rfl (hfree entries)
    | file other => rfl
    | link target => rfl

/-- A file is written where its path leads to, if that is not a directory. -/
theorem exists_trace_of_write (h : t.write path octets = .ok t') :
    ∃ loc e?, t.trace path = .ok (loc, e?) ∧ (∀ entries, e? ≠ some (.directory entries)) ∧
      t' = { t with top := put (.file octets) loc t.top } := by
  cases htrace : t.trace path with
  | error f =>
    rw [write, htrace] at h
    cases h
  | ok found =>
    obtain ⟨loc, e?⟩ := found
    have hfree : ∀ entries, e? ≠ some (.directory entries) := by
      rintro entries rfl
      rw [write, htrace] at h
      cases h
    rw [write_of_trace htrace hfree] at h
    exact ⟨loc, e?, rfl, hfree, (Except.ok.inj h).symm⟩

/-- The path of a file that has been written leads to it. -/
theorem trace_of_write (h : t.write path octets = .ok t') :
    ∃ loc, t'.trace path = .ok (loc, some (.file octets)) := by
  obtain ⟨loc, e?, htrace, hfree, rfl⟩ := exists_trace_of_write h
  obtain ⟨rfl, harrives⟩ := trace_spec htrace
  refine ⟨loc, ?_⟩
  rw [trace] at htrace ⊢
  split at htrace
  case isTrue => cases htrace
  case isFalse hpath =>
    rw [if_neg hpath]
    split at htrace
    case isTrue => cases htrace
    case isFalse hnull =>
      rw [if_neg hnull]
      split at htrace
      case isTrue => cases htrace
      case isFalse hsize =>
        rw [if_neg hsize]
        exact follow_put harrives hfree htrace

/-- What is written is what is read afterwards. -/
theorem octets_of_write (h : t.write path octets = .ok t') : t'.octets path = .ok octets := by
  obtain ⟨loc, htrace⟩ := trace_of_write h
  rw [FileTree.octets, find, htrace]
  rfl

/-- Whether a file can be written does not depend on what is written. -/
theorem exists_write_of_write (h : t.write path octets = .ok t') (others : Octets) :
    ∃ t'', t.write path others = .ok t'' := by
  obtain ⟨loc, e?, htrace, hfree, -⟩ := exists_trace_of_write h
  exact ⟨_, write_of_trace htrace hfree others⟩

theorem encoded_utf8 (text : String) : encoded "utf-8" text = .ok (Utf8.ofString text) := by
  rw [encoded, show Charset.ofName? "utf-8" = some (.charset .utf8) by decide]
  rfl

/-- Where there is no file to write to nothing changes. -/
theorem writeText_of_error {f : FileFault}
    (h : t.write (Path.ofString path).text [] = .error f) (charset text : String) :
    t.writeText path charset text = (t, some (.file f (Path.ofString path).text)) := by
  rw [writeText, h]

/-- A text in UTF-8 is written as a whole. -/
theorem exists_writeText (h : t.write (Path.ofString path).text [] = .ok t') (text : String) :
    ∃ t'', t.writeText path "utf-8" text = (t'', none) ∧
      t''.octets (Path.ofString path).text = .ok (Utf8.ofString text) := by
  obtain ⟨t'', ht''⟩ := exists_write_of_write h (Utf8.ofString text)
  refine ⟨t'', ?_, octets_of_write ht''⟩
  rw [writeText, h, encoded_utf8]
  dsimp only
  rw [ht'']

/-- What can be read as a file can be written. -/
theorem exists_write_of_octets (h : t.octets path = .ok octets) (others : Octets) :
    ∃ t', t.write path others = .ok t' := by
  rw [FileTree.octets, find] at h
  cases htrace : t.trace path with
  | error f => rw [htrace] at h; cases h
  | ok found =>
    obtain ⟨loc, e?⟩ := found
    refine ⟨_, write_of_trace htrace ?_ others⟩
    rintro entries rfl
    rw [htrace] at h
    cases h

end FileTree

end SourceConventions
