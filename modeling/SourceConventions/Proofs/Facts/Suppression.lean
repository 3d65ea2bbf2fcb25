import Mathlib.Data.List.Basic
import SourceConventions.Facts.Suppression
import SourceConventions.Finding

/-!
# What comments turn off

A comment of the form that turns rules off names the ids between its commas, and turns them off on
its own line only. Several comments turn off what one of them does.
-/

namespace SourceConventions

open Syntax

/-- Whether a comment turns a finding off: it stands on the line of the finding and names its rule,
or all rules. -/
def Syntax.Comment.TurnsOff (c : Comment) (f : Finding) : Prop :=
  (c.line : Int) = f.line ∧
    (Suppressions.allRules ∈ Suppressions.idsOfComment c.text ∨
      f.rule ∈ Suppressions.idsOfComment c.text)

instance (c : Comment) (f : Finding) : Decidable (c.TurnsOff f) :=
  inferInstanceAs (Decidable (_ ∧ _))

namespace Suppressions

/-! ### What a comment names -/

/-- A text that starts and ends with characters that are not blank. -/
structure Trimmed (cs : List Char) : Prop where
  head : cs.head?.any Text.isBlank = false
  last : cs.getLast?.any Text.isBlank = false

theorem dropWhile_of_head {p : Char → Bool} {cs : List Char} (h : cs.head?.any p = false) :
    cs.dropWhile p = cs := by
  cases cs with
  | nil => rfl
  | cons c rest => exact List.dropWhile_cons_of_neg (Bool.eq_false_iff.mp h)

theorem Trimmed.trimBlanks_eq {cs : List Char} (h : Trimmed cs) : Text.trimBlanks cs = cs := by
  have hlast : cs.reverse.head?.any Text.isBlank = false := by
    rw [List.head?_reverse]
    exact h.last
  rw [Text.trimBlanks, dropWhile_of_head h.head, dropWhile_of_head hlast, List.reverse_reverse]

/-- A blank in front of a text does not count. -/
theorem trimBlanks_cons {c : Char} (hc : Text.isBlank c = true) (cs : List Char) :
    Text.trimBlanks (c :: cs) = Text.trimBlanks cs := by
  rw [Text.trimBlanks, List.dropWhile_cons_of_pos hc, Text.trimBlanks]

/-- What stands between texts that are trimmed does not matter. -/
theorem Trimmed.around {front cs : List Char} (hfront : Trimmed front) (hne : front ≠ [])
    (h : Trimmed cs) (hne' : cs ≠ []) (between : List Char) : Trimmed (front ++ between ++ cs) := by
  constructor
  · rw [List.append_assoc, List.head?_append_of_ne_nil _ hne]
    exact hfront.head
  · rw [List.getLast?_append_of_ne_nil _ hne']
    exact h.last

theorem trimmed_intercalate {ids : List (List Char)} (hne : ids ≠ [])
    (h : ∀ id ∈ ids, id ≠ [] ∧ Trimmed id) :
    [','].intercalate ids ≠ [] ∧ Trimmed ([','].intercalate ids) := by
  induction ids with
  | nil => exact absurd rfl hne
  | cons id rest ih =>
    obtain ⟨⟨hid, htrimmed⟩, hrest⟩ := List.forall_mem_cons.mp h
    cases rest with
    | nil => simpa [List.intercalate] using ⟨hid, htrimmed⟩
    | cons next more =>
      obtain ⟨hsome, hmore⟩ := ih (List.cons_ne_nil _ _) hrest
      have hjoin : [','].intercalate (id :: next :: more) =
          id ++ [','] ++ [','].intercalate (next :: more) := by
        simp [List.intercalate]
      rw [hjoin]
      exact ⟨by simp [hid], htrimmed.around hid hmore hsome [',']⟩

theorem behind?_append (word : String) (rest : List Char) :
    behind? word (word.toList ++ rest) = some rest := by
  rw [behind?, if_pos (List.isPrefixOf_iff_prefix.mpr (List.prefix_append _ _)), List.drop_left]

theorem commaParts_eq_splitOnPPrepend (taken cs : List Char) :
    commaParts taken cs = cs.splitOnPPrepend (· == ',') taken := by
  induction cs generalizing taken with
  | nil => rfl
  | cons c rest ih =>
    rw [commaParts, List.splitOnPPrepend_cons_eq_if, ih, ih]
    simp

theorem commaParts_intercalate {ids : List (List Char)} (hne : ids ≠ []) (h : ∀ id ∈ ids, ',' ∉ id) :
    commaParts [] ([','].intercalate ids) = ids := by
  rw [commaParts_eq_splitOnPPrepend]
  exact List.splitOn_intercalate ',' h hne

/-- A comment of the form that turns rules off names the ids between its commas. -/
theorem idsOfComment_directive {ids : List (List Char)} (hne : ids ≠ [])
    (h : ∀ id ∈ ids, id ≠ [] ∧ ',' ∉ id ∧ Trimmed id) :
    idsOfComment ('#' :: ' ' :: (marker.toList ++ ' ' :: (directive.toList ++ [','].intercalate ids))) =
      ids.map String.ofList := by
  obtain ⟨hsome, hlist⟩ := trimmed_intercalate hne fun id hid => ⟨(h id hid).1, (h id hid).2.2⟩
  have hdirective : Trimmed (directive.toList ++ [','].intercalate ids) := by
    have hword : Trimmed directive.toList := ⟨by decide, by decide⟩
    have haround := hword.around (by decide) hlist hsome []
    rwa [List.append_nil] at haround
  have hmarker : Trimmed (marker.toList ++ ' ' :: (directive.toList ++ [','].intercalate ids)) := by
    have hword : Trimmed marker.toList := ⟨by decide, by decide⟩
    have haround := hword.around (by decide) hdirective (by simp [directive]) [' ']
    rwa [List.append_assoc] at haround
  have hparts : ((commaParts [] ([','].intercalate ids)).map Text.trimBlanks).filter (!·.isEmpty) =
      ids := by
    rw [commaParts_intercalate hne fun id hid => (h id hid).2.1]
    have htrim : ids.map Text.trimBlanks = ids :=
      (List.map_congr_left fun id hid => (h id hid).2.2.trimBlanks_eq).trans (List.map_id ids)
    rw [htrim]
    exact List.filter_eq_self.mpr fun id hid => by simp [(h id hid).1]
  have hbody : Text.trimBlanks (('#' :: ' ' :: (marker.toList ++ ' ' ::
      (directive.toList ++ [','].intercalate ids))).dropWhile (· == '#')) =
        marker.toList ++ ' ' :: (directive.toList ++ [','].intercalate ids) :=
    (trimBlanks_cons (by decide) _).trans hmarker.trimBlanks_eq
  unfold idsOfComment
  dsimp only
  rw [hbody, behind?_append, Option.bind_some, trimBlanks_cons (by decide), hdirective.trimBlanks_eq,
    behind?_append]
  exact congrArg (List.map String.ofList) hparts

/-! ### What is turned off on a line -/

theorem on_cons (l n : Nat) (known : List String) (u : Suppressions) :
    on ((l, known) :: u) n = if n = l then known else on u n := by
  by_cases h : n = l
  · simp [on, h]
  · rw [on, List.lookup_cons, beq_eq_false_iff_ne.mpr h, if_neg h]
    rfl

/-- Ids are added on one line only. -/
theorem on_add (line n : Nat) (ids : List String) (u : Suppressions) :
    on (add line ids u) n = if n = line then on u n ++ ids else on u n := by
  induction u with
  | nil => exact on_cons line n ids []
  | cons entry rest ih =>
    obtain ⟨l, known⟩ := entry
    rw [add]
    split
    next hl =>
      subst hl
      rw [on_cons, on_cons]
      split <;> rfl
    next hl =>
      rw [on_cons, on_cons, ih]
      by_cases hn : n = l
      · rw [if_pos hn, if_pos hn, if_neg (hn ▸ hl)]
      · rw [if_neg hn, if_neg hn]

/-- What one comment adds. -/
def addComment (u : Suppressions) (c : Comment) : Suppressions :=
  match idsOfComment c.text with
  | [] => u
  | ids => add c.line ids u

theorem mem_on_addComment {u : Suppressions} {c : Comment} {n : Nat} {id : String} :
    id ∈ on (addComment u c) n ↔ id ∈ on u n ∨ c.line = n ∧ id ∈ idsOfComment c.text := by
  unfold addComment
  split
  next hnone => simp [hnone]
  next =>
    rw [on_add]
    split
    next hn => simp [hn]
    next hn => simp [Ne.symm hn]

/-- An id is turned off on a line if a comment on that line has it. -/
theorem mem_on_ofComments {comments : List Comment} {n : Nat} {id : String} :
    id ∈ on (ofComments comments) n ↔ ∃ c ∈ comments, c.line = n ∧ id ∈ idsOfComment c.text := by
  have hfold (u : Suppressions) : id ∈ on (comments.foldl addComment u) n ↔
      id ∈ on u n ∨ ∃ c ∈ comments, c.line = n ∧ id ∈ idsOfComment c.text := by
    induction comments generalizing u with
    | nil => simp
    | cons c rest ih =>
      rw [List.foldl_cons, ih, mem_on_addComment, List.exists_mem_cons_iff, or_assoc]
  have hnone : id ∉ on [] n := List.not_mem_nil
  exact (hfold []).trans (or_iff_right hnone)

theorem turnsOff_ofComments {comments : List Comment} {f : Finding} :
    turnsOff (ofComments comments) f.line f.rule = true ↔ ∃ c ∈ comments, c.TurnsOff f := by
  unfold turnsOff
  extract_lets ids
  have hids (id : String) :
      id ∈ ids ↔ ∃ c ∈ comments, (c.line : Int) = f.line ∧ id ∈ idsOfComment c.text := by
    by_cases hline : f.line < 0
    · rw [show ids = [] from if_pos hline]
      refine iff_of_false List.not_mem_nil ?_
      rintro ⟨c, -, hc, -⟩
      omega
    · rw [show ids = on (ofComments comments) f.line.toNat from if_neg hline, mem_on_ofComments]
      refine exists_congr fun c => and_congr_right fun _ => and_congr_left fun _ => ?_
      omega
  rw [Bool.or_eq_true, List.contains_iff_mem, List.contains_iff_mem, hids, hids]
  constructor
  · rintro (⟨c, hc, hline, hid⟩ | ⟨c, hc, hline, hid⟩)
    · exact ⟨c, hc, hline, .inl hid⟩
    · exact ⟨c, hc, hline, .inr hid⟩
  · rintro ⟨c, hc, hline, hid | hid⟩
    · exact .inl ⟨c, hc, hline, hid⟩
    · exact .inr ⟨c, hc, hline, hid⟩

end Suppressions

end SourceConventions
