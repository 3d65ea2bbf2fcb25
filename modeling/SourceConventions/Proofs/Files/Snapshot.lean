import SourceConventions.Proofs.Files.Walk
import SourceConventions.Proofs.Files.Writing
import SourceConventions.Proofs.Path.Normal

/-!
# The directories of a snapshot

A snapshot tells the directories to which names lead from its root, as long as none of the names
above the last one is excluded or that of a link. Their paths tell them apart, since no name of a
file system has a slash in it.
-/

namespace SourceConventions

namespace FileTree

/-- A name that stands for an entry of a directory: neither a point nor two. -/
structure IsPlain (name : String) : Prop extends Path.IsName name where
  ne_points : name ≠ ".."

instance (name : String) : Decidable (IsPlain name) :=
  decidable_of_iff (name.toList ≠ [] ∧ name.toList ≠ ['.'] ∧ '/' ∉ name.toList ∧ name ≠ "..")
    ⟨fun h => ⟨⟨h.1, h.2.1, h.2.2.1⟩, h.2.2.2⟩, fun h => ⟨h.ne_empty, h.ne_point, h.notMem, h.ne_points⟩⟩

/-- A name that an entry can have. -/
def Fits (name : String) : Prop := IsPlain name ∧ name.utf8ByteSize ≤ maxNameOctets

instance (name : String) : Decidable (Fits name) := inferInstanceAs (Decidable (_ ∧ _))

end FileTree

namespace Entry

open FileTree

mutual

/-- In every directory each entry has a name of its own, and one that an entry can have. -/
def Sound : Entry → Prop
  | .directory entries => SoundAmong entries
  | _ => True

def SoundAmong : List (String × Entry) → Prop
  | [] => True
  | (name, e) :: rest => Fits name ∧ rest.lookup name = none ∧ Sound e ∧ SoundAmong rest

end

variable {e inner : Entry} {entries : List (String × Entry)} {name : String} {loc : Location}

theorem SoundAmong.lookup (h : SoundAmong entries) (hname : entries.lookup name = some e) :
    Fits name ∧ e.Sound := by
  induction entries with
  | nil => cases hname
  | cons head rest ih =>
    obtain ⟨n, first⟩ := head
    obtain ⟨hfits, -, hfirst, hrest⟩ := h
    rw [lookup_cons_ite] at hname
    split at hname
    case isTrue heq => exact heq ▸ Option.some.inj hname ▸ ⟨hfits, hfirst⟩
    case isFalse => exact ih hrest hname

theorem Sound.at? (h : e.Sound) (hloc : e.at? loc = some inner) :
    inner.Sound ∧ ∀ name ∈ loc, Fits name := by
  induction loc generalizing e with
  | nil => exact ⟨Option.some.inj hloc ▸ h, fun _ hname => absurd hname List.not_mem_nil⟩
  | cons name rest ih =>
    cases e with
    | directory entries =>
      obtain ⟨next, hnext, hrest⟩ := Option.bind_eq_some_iff.mp hloc
      obtain ⟨hfits, hsound⟩ := SoundAmong.lookup h hnext
      obtain ⟨hinner, hall⟩ := ih hsound hrest
      exact ⟨hinner, List.forall_mem_cons.mpr ⟨hfits, hall⟩⟩
    | file octets | link target => cases hloc

theorem at?_cons_directory (first : Entry) (entries : List (String × Entry)) (rest : Location)
    (other : String) :
    (directory ((name, first) :: entries)).at? (other :: rest) =
      if other = name then first.at? rest else (directory entries).at? (other :: rest) := by
  rw [Entry.at?, child?, lookup_cons_ite]
  split <;> rfl

end Entry

namespace FileTree

open Entry

/-! ### What a walk tells -/

section Walks

variable {t : FileTree} {excluded : List String} {root below l : Location} {name : String}
  {e : Entry} {entries : List (String × Entry)}

/-- That a walk through an entry comes to a location: by names that are not excluded to one that `p`
holds of. -/
def Reached (p : Location → String → Entry → Prop) (excluded : List String) (root below : Location)
    (e : Entry) (l : Location) : Prop :=
  ∃ above name inner, l = below ++ above ++ [name] ∧ (∀ n ∈ above, n ∉ excluded) ∧
    e.at? (above ++ [name]) = some inner ∧ p (root ++ below ++ above) name inner

section Reaching

variable {p : Location → String → Entry → Prop}

theorem isDirectory_of_reached (h : Reached p excluded root below e l) : e.isDirectory = true := by
  obtain ⟨above, name, inner, -, -, hinner, -⟩ := h
  cases e with
  | directory entries => rfl
  | file octets | link target => cases above <;> cases hinner

theorem not_reached_nil : ¬ Reached p excluded root below (.directory []) l := by
  rintro ⟨above, name, inner, -, -, hinner, -⟩
  cases above <;> cases hinner

/-- What is reached in a directory is its first entry, or in that entry, or among the others. -/
theorem reached_cons (hfresh : entries.lookup name = none) :
    Reached p excluded root below (.directory ((name, e) :: entries)) l ↔
      (p (root ++ below) name e ∧ l = below ++ [name] ∨
        name ∉ excluded ∧ Reached p excluded root (below ++ [name]) e l) ∨
      Reached p excluded root below (.directory entries) l := by
  constructor
  · rintro ⟨above, last, inner, rfl, habove, hinner, hp⟩
    cases above with
    | nil =>
      rw [List.nil_append, at?_cons_directory] at hinner
      rw [List.append_nil] at hp ⊢
      split at hinner
      case isTrue heq =>
        subst heq
        cases hinner
        exact .inl (.inl ⟨hp, rfl⟩)
      case isFalse =>
        exact .inr ⟨[], last, inner, by rw [List.append_nil], habove, hinner, by
          rwa [List.append_nil]⟩
    | cons first rest =>
      rw [List.cons_append, at?_cons_directory] at hinner
      split at hinner
      case isTrue heq =>
        subst heq
        obtain ⟨hfirst, hrest⟩ := List.forall_mem_cons.mp habove
        exact .inl (.inr ⟨hfirst, rest, last, inner, by simp, hrest, hinner, by simpa using hp⟩)
      case isFalse => exact .inr ⟨first :: rest, last, inner, rfl, habove, hinner, hp⟩
  · rintro ((⟨hp, rfl⟩ | ⟨hname, above, last, inner, rfl, habove, hinner, hp⟩) |
      ⟨above, last, inner, rfl, habove, hinner, hp⟩)
    · refine ⟨[], name, e, by rw [List.append_nil], fun _ h => absurd h List.not_mem_nil, ?_, by
        rwa [List.append_nil]⟩
      rw [List.nil_append, at?_cons_directory, if_pos rfl]
      rfl
    · refine ⟨name :: above, last, inner, by simp, List.forall_mem_cons.mpr ⟨hname, habove⟩, ?_, by
        simpa using hp⟩
      rw [List.cons_append, at?_cons_directory, if_pos rfl]
      exact hinner
    · refine ⟨above, last, inner, rfl, habove, ?_, hp⟩
      obtain ⟨first, rest, hcons⟩ : ∃ first rest, above ++ [last] = first :: rest := by
        cases above with
        | nil => exact ⟨last, [], rfl⟩
        | cons first rest => exact ⟨first, rest ++ [last], rfl⟩
      rw [hcons] at hinner ⊢
      rw [at?_cons_directory, if_neg]
      · exact hinner
      · rintro rfl
        rw [Entry.at?, child?, hfresh] at hinner
        cases hinner

end Reaching

/-- That a walk through an entry comes to a location: by names that are not excluded to one that
leads to a directory. -/
def Told (t : FileTree) (excluded : List String) (root below : Location) (e : Entry)
    (l : Location) : Prop :=
  ∃ above name inner, l = below ++ above ++ [name] ∧ (∀ n ∈ above, n ∉ excluded) ∧
    e.at? (above ++ [name]) = some inner ∧
    t.leadsToDirectory (root ++ below ++ above) name inner = true

theorem told_iff_reached : Told t excluded root below e l ↔
    Reached (fun loc name inner => t.leadsToDirectory loc name inner = true) excluded root below e l :=
  Iff.rfl

theorem leadsToDirectory_of_isDirectory {loc : Location} (h : e.isDirectory = true) :
    t.leadsToDirectory loc name e = true := by
  cases e with
  | directory entries => rfl
  | file octets | link target => cases h

theorem not_told (h : e.isDirectory = false) : ¬ Told t excluded root below e l := by
  intro htold
  rw [isDirectory_of_reached (told_iff_reached.mp htold)] at h
  cases h

theorem told_cons (hfresh : entries.lookup name = none) :
    Told t excluded root below (.directory ((name, e) :: entries)) l ↔
      (t.leadsToDirectory (root ++ below) name e = true ∧
        (l = below ++ [name] ∨ name ∉ excluded ∧ Told t excluded root (below ++ [name]) e l)) ∨
      Told t excluded root below (.directory entries) l := by
  simp only [told_iff_reached, reached_cons hfresh, and_or_left]
  refine or_congr_left (or_congr_right ⟨fun h => ⟨?_, h⟩, And.right⟩)
  exact leadsToDirectory_of_isDirectory (isDirectory_of_reached h.2)

mutual

theorem mem_directoriesIn {below : Location} :
    ∀ {e : Entry}, e.Sound →
      (l ∈ directoriesIn t excluded root below e ↔ Told t excluded root below e l)
  | .directory _, h => mem_directoriesAmong h
  | .file _, _ => iff_of_false List.not_mem_nil (not_told rfl)
  | .link _, _ => iff_of_false List.not_mem_nil (not_told rfl)

theorem mem_directoriesAmong {below : Location} :
    ∀ {entries : List (String × Entry)}, SoundAmong entries →
      (l ∈ directoriesAmong t excluded root below entries ↔
        Told t excluded root below (.directory entries) l)
  | [], _ => iff_of_false List.not_mem_nil (not_reached_nil <| told_iff_reached.mp ·)
  | (name, e) :: rest, ⟨_, hfresh, he, hrest⟩ => by
    rw [directoriesAmong, List.mem_append, told_cons hfresh, mem_directoriesAmong hrest]
    refine or_congr_left ?_
    by_cases hleads : t.leadsToDirectory (root ++ below) name e = true
    · rw [if_pos hleads, List.mem_cons, and_iff_right hleads]
      refine or_congr_right ?_
      by_cases hname : name ∈ excluded
      · simp [hname]
      · simp [hname, mem_directoriesIn he]
    · simp [hleads]

end

end Walks

/-! ### Following names through directories -/

section Following

variable {top e : Entry} {links : Nat} {loc l above : Location} {name : String}
  {entries inside : List (String × Entry)}

theorem IsPlain.not_point (h : IsPlain name) : name ≠ "." := by
  rintro rfl
  exact h.ne_point rfl

/-- A name that an entry can have is looked up. -/
theorem follow_cons_of_fits (hloc : top.at? loc = some (.directory entries)) (hname : Fits name)
    (rest : List String) :
    follow top links loc (name :: rest) =
      match entries.lookup name with
      | none => if rest = [] then .ok (loc ++ [name], none) else .error .missing
      | some (.link target) =>
        match links with
        | 0 => .error .tooManyLinks
        | links + 1 =>
          follow top links (if isAbsolute target then [] else loc) (steps target ++ rest)
      | some _ => follow top links (loc ++ [name]) rest := by
  rw [follow, hloc]
  refine (if_neg hname.1.not_point).trans ((if_neg hname.1.ne_points).trans
    ((if_neg (Nat.not_lt.mpr hname.2)).trans ?_))
  cases links <;> rfl

/-- A name that leads somewhere is one that an entry can have, and it is followed in a directory. -/
theorem fits_of_follow (hname : IsPlain name) {rest : List String} {found : Location × Option Entry}
    (h : follow top links loc (name :: rest) = .ok found) :
    Fits name ∧ ∃ entries, top.at? loc = some (.directory entries) := by
  rw [follow] at h
  cases hloc : top.at? loc with
  | none => rw [hloc] at h; cases h
  | some here =>
    cases here with
    | file octets | link target => rw [hloc] at h; cases h
    | directory entries =>
      rw [hloc] at h
      dsimp only at h
      rw [if_neg hname.not_point, if_neg hname.ne_points] at h
      split at h
      case isTrue => cases h
      case isFalse hsize => exact ⟨⟨hname, Nat.not_lt.mp hsize⟩, entries, rfl⟩

theorem follow_directory (hloc : top.at? loc = some (.directory entries)) (hname : Fits name)
    (hinside : entries.lookup name = some (.directory inside)) (rest : List String) :
    follow top links loc (name :: rest) = follow top links (loc ++ [name]) rest := by
  rw [follow_cons_of_fits hloc hname, hinside]

/-- The steps of a path that ends in a name. -/
theorem steps_append_name {front : String} (parts : List (List Char)) (h : Path.IsName name)
    (hparts : ∀ part ∈ parts, '/' ∉ part)
    (hfront : (front ++ name).toList = ['/'].intercalate (parts ++ [name.toList])) :
    steps (front ++ name) = (parts.filter (!·.isEmpty)).map String.ofList ++ [name] := by
  have hsplit : Path.split [] (front ++ name).toList = parts ++ [name.toList] := by
    rw [hfront]
    refine Path.split_intercalate (List.append_ne_nil_of_right_ne_nil _ (List.cons_ne_nil _ _)) ?_
    exact List.forall_mem_append.mpr ⟨hparts, List.forall_mem_singleton.mpr h.notMem⟩
  have hlast : (front ++ name).toList.getLast? ≠ some '/' := by
    rw [String.toList_append, List.getLast?_append_of_ne_nil _ h.ne_empty]
    exact fun hslash => h.notMem (List.mem_of_getLast? hslash)
  rw [steps, hsplit, if_neg hlast]
  simp [h.ne_empty]

theorem steps_of_isName (h : Path.IsName name) : steps name = [name] := by
  have hsteps : steps ("" ++ name) = [name] := steps_append_name [] h (by simp) (by simp)
  simpa using hsteps

/-- A name that nothing in a directory has leads nowhere from there. -/
theorem octets_of_absent {t : FileTree} {path : String} (hsteps : steps path = [name])
    (hplain : path ≠ "" ∧ path.toList.contains '\x00' = false)
    (hsize : path.utf8ByteSize ≤ maxPathOctets) (hname : Fits name)
    (hloc : t.top.at? (if isAbsolute path then [] else t.here) = some (.directory entries))
    (habsent : entries.lookup name = none) : t.octets path = .error .missing := by
  have htrace : t.trace path =
      .ok ((if isAbsolute path then [] else t.here) ++ [name], none) := by
    rw [trace, if_neg hplain.1, hplain.2, if_neg Bool.false_ne_true, if_neg (Nat.not_lt.mpr hsize),
      hsteps, follow_cons_of_fits hloc hname, habsent]
    exact if_pos rfl
  rw [octets, find, htrace]
  rfl

/-- A point leads to the working directory. -/
theorem find_point {t : FileTree} (hhere : t.top.at? t.here = some (.directory entries)) :
    t.find "." = .ok (t.here, .directory entries) := by
  have htrace : t.trace "." = .ok (t.here, some (.directory entries)) := by
    have hsteps : steps "." = ["."] := by decide
    rw [trace, if_neg (by decide), if_neg (by decide), if_neg (by decide), if_neg (by decide),
      hsteps, follow, hhere]
    change follow _ _ _ [] = _
    rw [follow, hhere]
  rw [find, htrace]
  rfl

/-- Names that lead through directories are followed one after the other. -/
theorem follow_append (htop : top.Sound) (h : top.at? (loc ++ above) = some (.directory entries))
    (rest : List String) :
    follow top links loc (above ++ rest) = follow top links (loc ++ above) rest := by
  induction above generalizing loc with
  | nil => rw [List.append_nil, List.nil_append]
  | cons name others ih =>
    have hfits : Fits name := (htop.at? h).2 name (by simp)
    obtain ⟨here, hhere⟩ := directory_of_at? h
    rw [← List.singleton_append, ← List.append_assoc] at h
    have hinside : ∃ inside, top.at? (loc ++ [name]) = some (.directory inside) := by
      cases others with
      | nil => exact ⟨entries, (List.append_nil (loc ++ [name])) ▸ h⟩
      | cons next more => exact directory_of_at? h
    obtain ⟨inside, hinside⟩ := hinside
    rw [at?_snoc hhere] at hinside
    rw [List.cons_append, follow_directory hhere hfits hinside, ih h, List.append_assoc,
      List.singleton_append]

/-- Names that lead somewhere without a link above the last one lead through directories. -/
theorem directory_of_follow (hnames : ∀ n ∈ above ++ [name], IsPlain n)
    (h : follow top links loc (above ++ [name]) = .ok (l, some e))
    (hlinks : ∀ front n back, above = front ++ n :: back →
      ∀ target, top.at? (loc ++ front ++ [n]) ≠ some (.link target)) :
    ∃ entries, top.at? (loc ++ above) = some (.directory entries) := by
  induction above generalizing loc with
  | nil =>
    rw [List.append_nil]
    exact (fits_of_follow (hnames name List.mem_cons_self) h).2
  | cons n rest ih =>
    obtain ⟨hfits, entries, hloc⟩ := fits_of_follow (hnames n List.mem_cons_self) h
    have hnot := hlinks [] n rest rfl
    rw [List.append_nil, at?_snoc hloc] at hnot
    rw [List.cons_append, follow_cons_of_fits hloc hfits] at h
    have hnext : follow top links (loc ++ [n]) (rest ++ [name]) = .ok (l, some e) := by
      cases hlookup : entries.lookup n with
      | none =>
        rw [hlookup] at h
        dsimp only at h
        rw [if_neg (List.append_ne_nil_of_right_ne_nil rest (List.cons_ne_nil name []))] at h
        cases h
      | some inner =>
        rw [hlookup] at h
        cases inner with
        | link target => exact absurd hlookup (hnot target)
        | file octets | directory inside => exact h
    have hrest := ih (fun m hm => hnames m (List.mem_cons_of_mem n hm)) hnext
      fun front m back heq target => by
        have hfront := hlinks (n :: front) m back (by rw [heq, List.cons_append]) target
        rwa [List.append_cons loc] at hfront
    rwa [List.append_cons]

end Following

/-! ### Directories that are told -/

section Directories

variable {t : FileTree} {excluded : List String} {loc : Location} {names : List String}
  {entries : List (String × Entry)}

/-- That names lead to a directory, links being followed. -/
def HasDirectory (t : FileTree) (loc : Location) (names : List String) : Prop :=
  ∃ l entries, follow t.top maxLinks loc names = .ok (l, some (.directory entries))

/-- That no name above the last one is excluded or that of a link. -/
def StandsOpen (t : FileTree) (excluded : List String) (loc : Location) (names : List String) : Prop :=
  ∀ front name back, names.dropLast = front ++ name :: back →
    name ∉ excluded ∧ ∀ target, t.top.at? (loc ++ front ++ [name]) ≠ some (.link target)

/-- Nothing above a directory is a link. -/
theorem ne_link_of_directory {front back : Location} {name : String}
    (h : t.top.at? (loc ++ (front ++ name :: back)) = some (.directory entries)) (target : String) :
    t.top.at? (loc ++ front ++ [name]) ≠ some (.link target) := by
  intro htarget
  rw [← List.append_assoc, List.append_cons, at?_append, htarget] at h
  cases back with
  | nil => cases h
  | cons next more => cases h

/-- What leads to a directory is what names lead to. -/
theorem leadsToDirectory_iff {name : String} {inner : Entry}
    (hloc : t.top.at? loc = some (.directory entries)) (hname : Fits name)
    (hinner : entries.lookup name = some inner) :
    t.leadsToDirectory loc name inner = true ↔ t.HasDirectory loc [name] := by
  have hthere : t.top.at? (loc ++ [name]) = some inner := (at?_snoc hloc name).trans hinner
  cases inner with
  | directory inside =>
    refine iff_of_true rfl ⟨loc ++ [name], inside, ?_⟩
    rw [follow_directory hloc hname hinner, follow, hthere]
  | file octets =>
    refine iff_of_false Bool.false_ne_true ?_
    rintro ⟨l, inside, h⟩
    rw [follow_cons_of_fits hloc hname, hinner] at h
    dsimp only at h
    rw [follow, hthere] at h
    cases h
  | link target =>
    rw [leadsToDirectory, HasDirectory]
    split
    next l e h =>
      rw [h]
      cases e with
      | directory inside => exact iff_of_true rfl ⟨l, inside, rfl⟩
      | file octets | link other =>
        refine iff_of_false Bool.false_ne_true ?_
        rintro ⟨l', inside, heq⟩
        cases heq
    next hno =>
      refine iff_of_false Bool.false_ne_true ?_
      rintro ⟨l, inside, h⟩
      exact hno l _ h

/-- What is reached from a location stands in a directory to which names lead that are neither
excluded nor those of links. -/
theorem reached_iff {p : Location → String → Entry → Prop} (htop : t.top.Sound)
    (hloc : t.top.at? loc = some (.directory entries)) :
    Reached p excluded loc [] (.directory entries) names ↔
      ∃ above name here inner, names = above ++ [name] ∧
        t.top.at? (loc ++ above) = some (.directory here) ∧ Fits name ∧
        here.lookup name = some inner ∧ p (loc ++ above) name inner ∧
        t.StandsOpen excluded loc names := by
  have hat (above : Location) (name : String) :
      t.top.at? (loc ++ above ++ [name]) = (directory entries).at? (above ++ [name]) := by
    rw [List.append_assoc, at?_append, hloc]
    rfl
  constructor
  · rintro ⟨above, name, inner, rfl, habove, hinner, hp⟩
    rw [← hat] at hinner
    rw [List.append_nil] at hp
    obtain ⟨here, hhere⟩ := directory_of_at? hinner
    have hname : Fits name := (htop.at? hinner).2 name (by simp)
    refine ⟨above, name, here, inner, rfl, hhere, hname, (at?_snoc hhere name).symm.trans hinner, hp, ?_⟩
    intro front n back heq
    rw [List.nil_append, List.dropLast_concat] at heq
    subst heq
    exact ⟨habove n (by simp), ne_link_of_directory hhere⟩
  · rintro ⟨above, name, here, inner, rfl, hhere, -, hinner, hp, hopen⟩
    rw [StandsOpen, List.dropLast_concat] at hopen
    refine ⟨above, name, inner, rfl, fun n hn => ?_, ?_, by rwa [List.append_nil]⟩
    · obtain ⟨front, back, heq⟩ := List.append_of_mem hn
      exact (hopen front n back heq).1
    · rw [← hat, at?_snoc hhere, hinner]

/-- A walk tells the directories that names lead to, unless a name above the last one is excluded or
that of a link. -/
theorem mem_directoriesIn_iff (htop : t.top.Sound)
    (hloc : t.top.at? loc = some (.directory entries)) (hne : names ≠ [])
    (hnames : ∀ n ∈ names, IsPlain n) :
    names ∈ directoriesIn t excluded loc [] (.directory entries) ↔
      t.HasDirectory loc names ∧ t.StandsOpen excluded loc names := by
  rw [mem_directoriesIn (htop.at? hloc).1, told_iff_reached, reached_iff htop hloc]
  constructor
  · rintro ⟨above, name, here, inner, rfl, hhere, hname, hinner, hleads, hopen⟩
    obtain ⟨l, inside, hfollow⟩ := (leadsToDirectory_iff hhere hname hinner).mp hleads
    exact ⟨⟨l, inside, (follow_append htop hhere [name]).trans hfollow⟩, hopen⟩
  · rintro ⟨⟨l, inside, hfollow⟩, hopen⟩
    obtain ⟨above, name, rfl⟩ : ∃ above name, names = above ++ [name] :=
      ⟨_, _, (List.dropLast_concat_getLast hne).symm⟩
    have hopen' := hopen
    rw [StandsOpen, List.dropLast_concat] at hopen'
    obtain ⟨here, hhere⟩ := directory_of_follow hnames hfollow
      fun front n back heq => (hopen' front n back heq).2
    rw [follow_append htop hhere] at hfollow
    have hfits := (fits_of_follow (hnames name (by simp)) hfollow).1
    obtain ⟨inner, hinner⟩ : ∃ inner, here.lookup name = some inner := by
      rw [follow_cons_of_fits hhere hfits] at hfollow
      cases hlookup : here.lookup name with
      | none => rw [hlookup] at hfollow; cases hfollow
      | some inner => exact ⟨inner, rfl⟩
    exact ⟨above, name, here, inner, rfl, hhere, hfits, hinner,
      (leadsToDirectory_iff hhere hfits hinner).mpr ⟨l, inside, hfollow⟩, hopen⟩

theorem namesOf_relativeText (hnames : ∀ n ∈ names, IsPlain n) :
    Path.namesOf (relativeText names).toList = names := by
  by_cases hne : names = []
  · subst hne
    rfl
  · exact Path.namesOf_intercalate hne fun n hn => (hnames n hn).toIsName

/-- Paths tell locations apart. -/
theorem relativeText_inj {others : List String} (hnames : ∀ n ∈ names, IsPlain n)
    (hothers : ∀ n ∈ others, IsPlain n) (h : relativeText names = relativeText others) :
    names = others := by
  have hsame := congrArg (fun path : String => Path.namesOf path.toList) h
  rwa [namesOf_relativeText hnames, namesOf_relativeText hothers] at hsame

theorem plain_of_reached {p : Location → String → Entry → Prop} {e : Entry} (he : e.Sound)
    (h : Reached p excluded loc [] e names) : names ≠ [] ∧ ∀ n ∈ names, IsPlain n := by
  obtain ⟨above, name, inner, rfl, -, hinner, -⟩ := h
  exact ⟨by simp, fun n hn => ((he.at? hinner).2 n hn).1⟩

/-- The path of a directory is told just if the directory is. -/
theorem relativeText_mem_iff (htop : t.top.Sound)
    (hloc : t.top.at? loc = some (.directory entries)) (hne : names ≠ [])
    (hnames : ∀ n ∈ names, IsPlain n) :
    relativeText names ∈ (directoriesIn t excluded loc [] (.directory entries)).map relativeText ↔
      t.HasDirectory loc names ∧ t.StandsOpen excluded loc names := by
  rw [← mem_directoriesIn_iff htop hloc hne hnames, List.mem_map]
  refine ⟨fun ⟨others, hothers, heq⟩ => ?_, fun h => ⟨names, h, rfl⟩⟩
  have hplain := (plain_of_reached (htop.at? hloc).1
    (told_iff_reached.mp ((mem_directoriesIn (htop.at? hloc).1).mp hothers))).2
  exact relativeText_inj hplain hnames heq ▸ hothers

theorem walkRoot_of_find {root : String} (h : t.find root = .ok (loc, .directory entries)) :
    t.walkRoot root = .ok (loc, .directory entries) ∧
      t.top.at? loc = some (.directory entries) := by
  refine ⟨by rw [walkRoot, h]; rfl, ?_⟩
  rw [find] at h
  cases htrace : t.trace root with
  | error f => rw [htrace] at h; cases h
  | ok answer =>
    obtain ⟨there, e?⟩ := answer
    rw [htrace] at h
    cases e? with
    | none => cases h
    | some e => cases h; exact (trace_spec htrace).1.symm

theorem snapshot_of_find {root : String}
    (h : t.find (Path.ofString root).text = .ok (loc, .directory entries)) :
    t.snapshot root excluded = .ok (⟨(Path.ofString root).text,
      (directoriesIn t excluded loc [] (.directory entries)).map relativeText⟩, []) := by
  rw [snapshot]
  dsimp only
  rw [walk, (walkRoot_of_find h).1]
  rfl

end Directories

/-! ### Real paths -/

section RealPaths

variable {t : FileTree} {path root : String} {top : Entry} {depth : Nat} {active : List Location}
  {loc found : Location} {names : List String}

theorem isName_of_mem_steps {name : String} (h : name ∈ steps path) (hpoint : name ≠ ".") :
    Path.IsName name := by
  have hparts : name ∈ ((Path.split [] path.toList).filter (!·.isEmpty)).map String.ofList := by
    rw [steps] at h
    split at h
    · rcases List.mem_append.mp h with h | h
      · exact h
      · exact absurd (List.mem_singleton.mp h) hpoint
    · exact h
  obtain ⟨part, hpart, rfl⟩ := List.mem_map.mp hparts
  obtain ⟨hsplit, hkept⟩ := List.mem_filter.mp hpart
  refine ⟨?_, fun heq => hpoint (String.toList_inj.mp heq), ?_⟩
  · simpa using hkept
  · rw [String.toList_ofList]
    exact Path.notMem_of_mem_split List.not_mem_nil hsplit

/-- Names that are followed from a real location lead to one that can be told by its names. -/
theorem isName_of_realNames (hloc : ∀ n ∈ loc, Path.IsName n)
    (hnames : ∀ n ∈ names, n ≠ "." → Path.IsName n)
    (h : realNames top depth active loc names = .ok found) : ∀ n ∈ found, Path.IsName n := by
  have hstart (target : String) (loc : Location) (hloc : ∀ n ∈ loc, Path.IsName n) :
      ∀ n ∈ (if isAbsolute target then [] else loc), Path.IsName n := by
    split
    · exact fun _ hn => absurd hn List.not_mem_nil
    · exact hloc
  fun_induction realNames top depth active loc names generalizing found with
  | case1 => cases h; exact hloc
  | case2 depth active loc rest ih =>
    exact ih hloc (fun n hn => hnames n (List.mem_cons_of_mem _ hn)) h
  | case3 depth active loc rest _ ih =>
    exact ih (fun n hn => hloc n (List.dropLast_subset loc hn))
      (fun n hn => hnames n (List.mem_cons_of_mem _ hn)) h
  | case4 | case5 | case6 => cases h
  | case7 active loc name rest _ _ target _ inner _ start middle hmiddle ihtarget =>
    rename_i ihrest
    have hthere : ∀ n ∈ middle, Path.IsName n := by
      refine ihtarget ?_ (fun n hn => isName_of_mem_steps hn) hmiddle
      simpa only [start, dite_eq_ite] using hstart target loc hloc
    exact ihrest hthere (fun n hn => hnames n (List.mem_cons_of_mem _ hn)) h
  | case8 depth active loc name rest hpoint _ _ ih =>
    refine ih (fun n hn => ?_) (fun n hn => hnames n (List.mem_cons_of_mem _ hn)) h
    rcases List.mem_append.mp hn with hn | hn
    · exact hloc n hn
    · exact List.mem_singleton.mp hn ▸ hnames name List.mem_cons_self hpoint

/-- A real path is written as paths are. -/
theorem text_ofString_of_realPath (hhere : ∀ n ∈ t.here, Path.IsName n)
    (h : t.realPath path = .ok root) : (Path.ofString root).text = root := by
  rw [realPath, realLocation] at h
  split at h
  case isTrue => cases h
  case isFalse =>
    dsimp only at h
    cases hreal : realNames t.top (t.top.linkCount + 1) []
        (if isAbsolute path then [] else t.here) (steps path) with
    | error l => rw [hreal] at h; cases h
    | ok loc =>
      rw [hreal] at h
      cases h
      have hloc : ∀ n ∈ loc, Path.IsName n := by
        refine isName_of_realNames ?_ (fun n hn => isName_of_mem_steps hn) hreal
        split
        · exact fun _ hn => absurd hn List.not_mem_nil
        · exact hhere
      have htext : locationText loc = (Path.mk .root loc).text := by
        rw [Path.text, if_neg fun hanchor => Anchor.noConfusion hanchor.1]
        rfl
      rw [htext, Path.ofString_text hloc]

end RealPaths

end FileTree

end SourceConventions
