import SourceConventions.Path.Basic

/-!
# Texts of paths

The text of a path is read as that path, so that reading a text as a path a second time changes
nothing.
-/

namespace SourceConventions.Path

theorem split_eq_splitOnPPrepend (taken cs : List Char) :
    split taken cs = cs.splitOnPPrepend (· == '/') taken := by
  induction cs generalizing taken with
  | nil => rfl
  | cons c rest ih =>
    rw [split, List.splitOnPPrepend_cons_eq_if, ih, ih]
    simp

theorem split_intercalate {parts : List (List Char)} (hne : parts ≠ [])
    (h : ∀ part ∈ parts, '/' ∉ part) : split [] (['/'].intercalate parts) = parts := by
  rw [split_eq_splitOnPPrepend]
  exact List.splitOn_intercalate '/' h hne

theorem notMem_of_mem_split {taken cs part : List Char} (htaken : '/' ∉ taken)
    (h : part ∈ split taken cs) : '/' ∉ part := by
  induction cs generalizing taken with
  | nil =>
    rw [split, List.mem_singleton] at h
    rwa [h, List.mem_reverse]
  | cons c rest ih =>
    rw [split] at h
    split at h
    case isTrue =>
      rcases List.mem_cons.mp h with rfl | h
      · rwa [List.mem_reverse]
      · exact ih List.not_mem_nil h
    case isFalse hc =>
      refine ih (fun hmem => ?_) h
      rcases List.mem_cons.mp hmem with heq | hmem
      · exact hc heq.symm
      · exact htaken hmem

/-- A text that is one name of a path. -/
structure IsName (name : String) : Prop where
  ne_empty : name.toList ≠ []
  ne_point : name.toList ≠ ['.']
  notMem : '/' ∉ name.toList

theorem isName_of_mem_namesOf {cs : List Char} {name : String} (h : name ∈ namesOf cs) :
    IsName name := by
  obtain ⟨part, hpart, rfl⟩ := List.mem_map.mp h
  obtain ⟨hsplit, hkept⟩ := List.mem_filter.mp hpart
  rw [Bool.and_eq_true, Bool.not_eq_true', List.isEmpty_eq_false_iff, bne_iff_ne] at hkept
  rw [← String.toList_ofList (l := part)] at hsplit hkept
  exact ⟨hkept.1, hkept.2, notMem_of_mem_split List.not_mem_nil hsplit⟩

/-- Names that are joined are told apart again. -/
theorem namesOf_intercalate {names : List String} (hne : names ≠ [])
    (h : ∀ name ∈ names, IsName name) :
    namesOf ("/".intercalate names).toList = names := by
  have hparts : split [] ("/".intercalate names).toList = names.map String.toList := by
    rw [String.toList_intercalate]
    refine split_intercalate (by simpa using hne) fun part hpart => ?_
    obtain ⟨name, hname, rfl⟩ := List.mem_map.mp hpart
    exact (h name hname).notMem
  have hkept : (names.map String.toList).filter (fun n => !n.isEmpty && n != ['.']) =
      names.map String.toList := by
    refine List.filter_eq_self.mpr fun part hpart => ?_
    obtain ⟨name, hname, rfl⟩ := List.mem_map.mp hpart
    rw [Bool.and_eq_true, Bool.not_eq_true', List.isEmpty_eq_false_iff, bne_iff_ne]
    exact ⟨(h name hname).ne_empty, (h name hname).ne_point⟩
  rw [namesOf, hparts, hkept, List.map_map]
  simp [Function.comp_def]

/-- Joined names do not start with a slash. -/
theorem exists_head_intercalate {names : List String} (hne : names ≠ [])
    (h : ∀ name ∈ names, IsName name) :
    ∃ c rest, ("/".intercalate names).toList = c :: rest ∧ c ≠ '/' := by
  obtain ⟨name, others, rfl⟩ := List.exists_cons_of_ne_nil hne
  have hname := h name List.mem_cons_self
  obtain ⟨c, rest, hcons⟩ := List.exists_cons_of_ne_nil hname.ne_empty
  have hc : c ≠ '/' := by
    rintro rfl
    exact hname.notMem (hcons ▸ List.mem_cons_self)
  cases others with
  | nil => exact ⟨c, rest, by rw [String.intercalate_singleton, hcons], hc⟩
  | cons next more =>
    refine ⟨c, rest ++ "/".toList ++ ("/".intercalate (next :: more)).toList, ?_, hc⟩
    rw [String.intercalate_cons_cons, String.toList_append, String.toList_append, hcons,
      List.cons_append, List.cons_append]

theorem ofString_text {p : Path} (h : ∀ name ∈ p.names, IsName name) : ofString p.text = p := by
  obtain ⟨anchor, names⟩ := p
  by_cases hne : names = []
  · subst hne
    cases anchor <;> decide
  obtain ⟨c, rest, hcons, hc⟩ := exists_head_intercalate hne h
  have hnames := namesOf_intercalate hne h
  rw [text, if_neg fun hempty => hne hempty.2, ofString, String.toList_append]
  rw [hcons] at hnames ⊢
  dsimp only
  -- The slashes of the anchor are followed by a name, and between them stand empty names only.
  have hstop : (c :: rest).takeWhile (· == '/') = [] := List.takeWhile_cons_of_neg (by simpa using hc)
  have hskip (cs : List Char) : namesOf ('/' :: cs) = namesOf cs := rfl
  cases anchor with
  | here =>
    rw [show Anchor.here.text.toList = [] by decide, List.nil_append, hnames, anchorOf, hstop]
    rfl
  | root =>
    rw [show Anchor.root.text.toList = ['/'] by decide, List.singleton_append, hskip, hnames,
      anchorOf, List.takeWhile_cons_of_pos (by rfl), hstop]
    rfl
  | network =>
    rw [show Anchor.network.text.toList = ['/', '/'] by decide, List.cons_append,
      List.singleton_append, hskip, hskip, hnames, anchorOf, List.takeWhile_cons_of_pos (by rfl),
      List.takeWhile_cons_of_pos (by rfl), hstop]
    rfl

/-- A text that has been read as a path is read as the same path again. -/
theorem text_ofString_text (s : String) : (ofString (ofString s).text).text = (ofString s).text := by
  rw [ofString_text fun name hname => isName_of_mem_namesOf hname]

end SourceConventions.Path
