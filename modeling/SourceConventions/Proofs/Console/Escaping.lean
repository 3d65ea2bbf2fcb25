import Mathlib.Data.List.TakeWhile
import SourceConventions.Console.Basic

/-!
# Escaped texts on a console

A text that is escaped opens and closes no style, whatever brackets and backslashes it has: every
tag in it stands behind an odd number of backslashes. So every notice can be printed.
-/

namespace SourceConventions

namespace Markup

variable {cs rest tag others : List Char} {c : Char} {opened : List String}
  {fuel n position : Nat}

/-! ### Tags -/

def isBracket (c : Char) : Bool := c == '[' || c == ']'

theorem drop_takeWhile (p : Char → Bool) (cs : List Char) :
    cs.drop (cs.takeWhile p).length = cs.dropWhile p := by
  calc cs.drop (cs.takeWhile p).length
      = (cs.takeWhile p ++ cs.dropWhile p).drop (cs.takeWhile p).length := by
        rw [List.takeWhile_append_dropWhile]
    _ = cs.dropWhile p := List.drop_left

theorem tag?_of_body {body : List Char} (hc : startsTag c = true)
    (hbody : ∀ d ∈ body, isBracket d = false) (others : List Char) :
    tag? ('[' :: c :: body ++ ']' :: others) = some ('[' :: c :: body ++ [']'], others) := by
  have htaken : (body ++ ']' :: others).takeWhile (fun d => d != '[' && d != ']') = body := by
    rw [List.takeWhile_append_of_pos, List.takeWhile_cons_of_neg, List.append_nil]
    · decide
    · intro d hd
      have := hbody d hd
      simpa [isBracket, not_or] using this
  simp only [List.cons_append, tag?, hc, if_pos, htaken, List.drop_left]

theorem exists_body (h : tag? cs = some (tag, others)) :
    ∃ c body, startsTag c = true ∧ (∀ d ∈ body, isBracket d = false) ∧
      tag = '[' :: c :: body ++ [']'] ∧ cs = '[' :: c :: body ++ ']' :: others := by
  unfold tag? at h
  split at h
  next c rest =>
    split at h
    next hc =>
      dsimp only at h
      split at h
      next others' hdrop =>
        cases h
        refine ⟨c, rest.takeWhile fun d => d != '[' && d != ']', hc, fun d hd => ?_, rfl, ?_⟩
        · have := List.mem_takeWhile_imp hd
          simpa [isBracket] using this
        · rw [drop_takeWhile] at hdrop
          rw [← hdrop, List.cons_append, List.cons_append, List.takeWhile_append_dropWhile]
      next => cases h
    next => cases h
  next => cases h

theorem find?_bracket {front : List Char} (hfront : ∀ d ∈ front, isBracket d = false)
    (hc : isBracket c = true) (rest : List Char) :
    (front ++ c :: rest).find? isBracket = some c := by
  rw [List.find?_append, List.find?_eq_none.mpr (by simpa using hfront), Option.none_or,
    List.find?_cons_of_pos hc]

/-- A bracket opens a tag just if the next one closes it. -/
theorem tag?_eq_none_iff (c : Char) (rest : List Char) :
    tag? ('[' :: c :: rest) = none ↔
      ¬ (startsTag c = true ∧ rest.find? isBracket = some ']') := by
  constructor
  · rintro hnone ⟨hc, hfind⟩
    obtain ⟨-, body, others, rfl, hbody⟩ := List.find?_eq_some_iff_append.mp hfind
    have htag := tag?_of_body hc (by simpa using hbody) others
    exact nomatch hnone.symm.trans htag
  · intro hno
    cases htag : tag? ('[' :: c :: rest) with
    | none => rfl
    | some found =>
      obtain ⟨c', body, hc, hbody, -, heq⟩ := exists_body htag
      obtain ⟨rfl, rfl⟩ : c = c' ∧ rest = body ++ ']' :: found.2 := by simpa using heq
      exact absurd ⟨hc, find?_bracket hbody rfl _⟩ hno

theorem tag?_of_ne (hc : c ≠ '[') (rest : List Char) : tag? (c :: rest) = none := by
  unfold tag?
  split
  next heq => exact absurd (List.cons.inj heq).1 hc
  next => rfl

/-- The number of backslashes that a text starts with. -/
def slashes (cs : List Char) : Nat := (cs.takeWhile (· == '\\')).length

/-- The tag behind the backslashes that a text starts with. -/
def tagBehind? (cs : List Char) : Option (List Char × List Char) := tag? (cs.drop (slashes cs))

theorem tagBehind?_slash (cs : List Char) : tagBehind? ('\\' :: cs) = tagBehind? cs := rfl

theorem tagBehind?_of_ne (hc : c ≠ '\\') (rest : List Char) :
    tagBehind? (c :: rest) = tag? (c :: rest) := by
  rw [tagBehind?, slashes, List.takeWhile_cons_of_neg (by simpa using hc)]
  rfl

theorem takeWhile_slashes (cs : List Char) :
    cs.takeWhile (· == '\\') = List.replicate (slashes cs) '\\' :=
  List.eq_replicate_iff.mpr ⟨rfl, fun d hd => by simpa using List.mem_takeWhile_imp hd⟩

theorem eq_of_tagBehind? (h : tagBehind? cs = some (tag, others)) :
    cs = List.replicate (slashes cs) '\\' ++ (tag ++ others) := by
  obtain ⟨c, body, -, -, rfl, hrest⟩ := exists_body h
  rw [slashes, drop_takeWhile] at hrest
  rw [← takeWhile_slashes, List.append_assoc, List.singleton_append, ← hrest,
    List.takeWhile_append_dropWhile]

theorem length_lt_of_tagBehind? (h : tagBehind? cs = some (tag, others)) :
    others.length < cs.length := by
  have hlength := congrArg List.length (eq_of_tagBehind? h)
  obtain ⟨c, body, -, -, rfl, -⟩ := exists_body h
  simp only [List.length_append, List.length_cons] at hlength
  omega

/-- Backslashes in front of a tag. -/
theorem tagBehind?_slashes (h : tag? cs = some (tag, others)) (n : Nat) (more : List Char) :
    slashes (List.replicate n '\\' ++ (tag ++ more)) = n ∧
      tagBehind? (List.replicate n '\\' ++ (tag ++ more)) = some (tag, more) := by
  obtain ⟨c, body, hc, hbody, rfl, -⟩ := exists_body h
  have htag := tag?_of_body hc hbody more
  have hslashes : slashes (List.replicate n '\\' ++ (('[' :: c :: body ++ [']']) ++ more)) = n := by
    rw [slashes, List.takeWhile_append_of_pos (by simp)]
    simp
  refine ⟨hslashes, ?_⟩
  rw [tagBehind?, hslashes, List.drop_left' List.length_replicate, List.append_assoc]
  exact htag

/-! ### Escaping -/

theorem escapeTags_nil (fuel : Nat) : escapeTags fuel [] = [] := by
  cases fuel <;> rfl

theorem escapeTags_of_none (h : tagBehind? (c :: rest) = none) (fuel : Nat) :
    escapeTags fuel (c :: rest) = c :: escapeTags (fuel - 1) rest := by
  cases fuel with
  | zero => rfl
  | succ fuel =>
    rw [tagBehind?, slashes] at h
    rw [escapeTags, h]
    rfl

theorem escapeTags_of_tag (h : tagBehind? (c :: rest) = some (tag, others)) :
    escapeTags (fuel + 1) (c :: rest) =
      List.replicate (slashes (c :: rest) + slashes (c :: rest) + 1) '\\' ++
        (tag ++ escapeTags fuel others) := by
  rw [tagBehind?, slashes] at h
  rw [escapeTags, h, takeWhile_slashes, List.replicate_succ', ← List.replicate_append_replicate]
  simp only [List.append_assoc, List.cons_append, List.nil_append]

/-- Escaping leaves the first character of a text in its place or puts a backslash there. -/
theorem escapeTags_cons (fuel : Nat) (c : Char) (rest : List Char) :
    escapeTags fuel (c :: rest) = c :: escapeTags (fuel - 1) rest ∨
      ∃ more, escapeTags fuel (c :: rest) = '\\' :: more := by
  cases htag : tagBehind? (c :: rest) with
  | none => exact .inl (escapeTags_of_none htag fuel)
  | some found =>
    cases fuel with
    | zero => exact .inl rfl
    | succ fuel =>
      rw [escapeTags_of_tag htag]
      exact .inr ⟨_, rfl⟩

theorem find?_slashes (n : Nat) : (List.replicate n '\\').find? isBracket = none :=
  List.find?_eq_none.mpr fun d hd => by rw [List.eq_of_mem_replicate hd]; decide

/-- Escaping leaves the first bracket of a text as it is. -/
theorem find?_escapeTags (fuel n : Nat) (cs : List Char) :
    (escapeTags fuel cs ++ List.replicate n '\\').find? isBracket = cs.find? isBracket := by
  induction fuel generalizing cs with
  | zero => rw [escapeTags, List.find?_append, find?_slashes, Option.or_none]
  | succ fuel ih =>
    cases cs with
    | nil => rw [escapeTags_nil, List.nil_append, find?_slashes]; rfl
    | cons c rest =>
      cases htag : tagBehind? (c :: rest) with
      | none =>
        rw [escapeTags_of_none htag, List.cons_append, List.find?_cons, List.find?_cons,
          Nat.add_sub_cancel, ih]
      | some found =>
        have hfound : ∀ n more, (List.replicate n '\\' ++ (found.1 ++ more)).find? isBracket =
            some '[' := by
          obtain ⟨d, body, -, -, hbody, -⟩ := exists_body htag
          intro n more
          rw [hbody]
          exact find?_bracket (fun d hd => by rw [List.eq_of_mem_replicate hd]; rfl) rfl _
        rw [escapeTags_of_tag htag, List.append_assoc, List.append_assoc, hfound,
          eq_of_tagBehind? htag, hfound]

theorem tagBehind?_replicate (n : Nat) : tagBehind? (List.replicate n '\\') = none := by
  induction n with
  | zero => rfl
  | succ n ih => rw [List.replicate_succ, tagBehind?_slash, ih]

/-- Where no tag stands there is none after escaping. -/
theorem tagBehind?_escapeTags (fuel n : Nat) (h : tagBehind? (c :: rest) = none) :
    tagBehind? (c :: (escapeTags fuel rest ++ List.replicate n '\\')) = none := by
  induction rest generalizing c fuel with
  | nil =>
    rw [escapeTags_nil, List.nil_append]
    by_cases hslash : c = '\\'
    case pos => rw [hslash, tagBehind?_slash, tagBehind?_replicate]
    rw [tagBehind?_of_ne hslash]
    by_cases hbracket : c = '['
    case neg => exact tag?_of_ne hbracket _
    subst hbracket
    cases n with
    | zero => rfl
    | succ n => exact (tag?_eq_none_iff _ _).mpr fun hopen => nomatch hopen.1
  | cons d rest ih =>
    by_cases hslash : c = '\\'
    case pos =>
      rw [hslash, tagBehind?_slash] at h ⊢
      rw [escapeTags_of_none h, List.cons_append]
      exact ih _ h
    rw [tagBehind?_of_ne hslash] at h ⊢
    by_cases hbracket : c = '['
    case neg => exact tag?_of_ne hbracket _
    subst hbracket
    -- No tag starts with a backslash, and without one the first bracket decides as before.
    rcases escapeTags_cons fuel d rest with hkept | ⟨more, hslashed⟩
    · rw [hkept, List.cons_append, tag?_eq_none_iff, find?_escapeTags]
      exact (tag?_eq_none_iff d rest).mp h
    · rw [hslashed, List.cons_append, tag?_eq_none_iff]
      exact fun hopen => nomatch hopen.1

/-! ### Markup that can be shown -/

/-- That what markup shows can be told while styles are open. -/
def Shows (opened : List String) (cs : List Char) : Prop :=
  ∀ fuel position taken, ∃ text, shown opened (piecesFrom position taken fuel cs) = .ok text

theorem exists_shown_text {ps : List Piece} (h : ∃ text, shown opened ps = .ok text)
    (cs : List Char) : ∃ text, shown opened (.text cs :: ps) = .ok text := by
  obtain ⟨text, h⟩ := h
  refine ⟨Shortcode.replace (withoutSlashes cs) ++ text, ?_⟩
  rw [shown, h]
  rfl

theorem exists_shown_append {ps : List Piece} (h : ∃ text, shown opened ps = .ok text)
    (cs : List Char) : ∃ text, shown opened (textPiece cs ++ ps) = .ok text := by
  rw [textPiece]
  split
  · exact h
  · exact exists_shown_text h cs

theorem exists_shown (opened : List String) (cs : List Char) :
    ∃ text, shown opened (textPiece cs) = .ok text := by
  rw [← List.append_nil (textPiece cs)]
  exact exists_shown_append ⟨[], rfl⟩ cs

theorem piecesFrom_of_tag (h : tagBehind? (c :: rest) = some (tag, others)) (position : Nat)
    (taken : List Char) (fuel : Nat) :
    piecesFrom position taken (fuel + 1) (c :: rest) =
      textPiece taken.reverse ++ (textPiece (List.replicate (slashes (c :: rest) / 2) '\\') ++
        (if slashes (c :: rest) % 2 = 1 then .text tag
          else .tag (position + slashes (c :: rest)) (tag.drop 1).dropLast) ::
            piecesFrom (position + slashes (c :: rest) + tag.length) [] fuel others) := by
  rw [tagBehind?, slashes] at h
  rw [piecesFrom, h]
  exact List.append_assoc _ _ _

/-- Whether a text names a style when it stands in brackets. -/
def isStyle : List Char → Bool
  | [] => false
  | c :: body => c.isLower && body.all (!isBracket ·)

theorem isStyle_append (hcs : isStyle cs = true) (hrest : isStyle rest = true) :
    isStyle (cs ++ rest) = true := by
  have hall : rest.all (!isBracket ·) = true := by
    cases rest with
    | nil => rfl
    | cons d rest =>
      rw [isStyle, Bool.and_eq_true] at hrest
      have hd : isBracket d = false := by
        rw [isBracket, Bool.or_eq_false_iff, beq_eq_false_iff_ne, beq_eq_false_iff_ne]
        constructor <;> rintro rfl <;> exact absurd hrest.1 (by decide)
      rw [List.all_cons, hd, hrest.2]
      rfl
  cases cs with
  | nil => cases hcs
  | cons c body =>
    rw [isStyle, Bool.and_eq_true] at hcs
    rw [List.cons_append, isStyle, List.all_append, hcs.1, hcs.2, hall]
    rfl

/-- Whether a text has no bracket that opens a tag and no backslash. -/
def isBare (cs : List Char) : Bool := cs.all fun c => c != '[' && c != '\\'

namespace Shows

theorem nil (opened : List String) : Shows opened [] := by
  intro fuel position taken
  cases fuel with
  | zero => exact exists_shown opened _
  | succ fuel => exact exists_shown opened _

theorem char (h : tagBehind? (c :: rest) = none) (hrest : Shows opened rest) :
    Shows opened (c :: rest) := by
  intro fuel position taken
  cases fuel with
  | zero => exact exists_shown opened _
  | succ fuel =>
    rw [tagBehind?, slashes] at h
    rw [piecesFrom, h]
    exact hrest fuel _ _

/-- A tag behind an odd number of backslashes is a text. -/
theorem escaped (h : tagBehind? cs = some (tag, others)) (hodd : slashes cs % 2 = 1)
    (hothers : Shows opened others) : Shows opened cs := by
  intro fuel position taken
  cases cs with
  | nil => cases h
  | cons c rest =>
    cases fuel with
    | zero => exact exists_shown opened _
    | succ fuel =>
      rw [piecesFrom_of_tag h, if_pos hodd]
      exact exists_shown_append
        (exists_shown_append (exists_shown_text (hothers fuel _ _) tag) _) _

/-- Another tag opens or closes a style. -/
theorem style (c : Char) (body : List Char) {opened' : List String} (hc : startsTag c = true)
    (hbody : ∀ d ∈ body, isBracket d = false)
    (hstyles : ∀ position, styles opened position (c :: body) = .ok opened')
    (h : Shows opened' rest) : Shows opened ('[' :: (c :: body ++ ']' :: rest)) := by
  intro fuel position taken
  cases fuel with
  | zero => exact exists_shown opened _
  | succ fuel =>
    have hnone : slashes ('[' :: (c :: body ++ ']' :: rest)) = 0 := rfl
    have hbehind : tagBehind? ('[' :: (c :: body ++ ']' :: rest)) = some _ :=
      tag?_of_body hc hbody rest
    have htag : (('[' :: c :: body ++ [']']).drop 1).dropLast = c :: body := List.dropLast_concat
    rw [piecesFrom_of_tag hbehind, hnone, if_neg (by decide), htag]
    refine exists_shown_append (exists_shown_append ?_ _) _
    rw [shown, hstyles]
    exact h fuel _ _

theorem backslashes (opened : List String) (n : Nat) : Shows opened (List.replicate n '\\') := by
  induction n with
  | zero => exact .nil opened
  | succ n ih => exact .char (tagBehind?_replicate (n + 1)) ih

theorem of_escapeTags (opened : List String) (n : Nat) (h : cs.length ≤ fuel) :
    Shows opened (escapeTags fuel cs ++ List.replicate n '\\') := by
  induction fuel generalizing cs with
  | zero =>
    obtain rfl : cs = [] := List.length_eq_zero_iff.mp (Nat.le_zero.mp h)
    exact .backslashes opened n
  | succ fuel ih =>
    cases cs with
    | nil => exact .backslashes opened n
    | cons c rest =>
      cases htag : tagBehind? (c :: rest) with
      | none =>
        rw [escapeTags_of_none htag, List.cons_append]
        exact .char (tagBehind?_escapeTags _ n htag) (ih (Nat.le_of_succ_le_succ h))
      | some found =>
        have hothers : found.2.length ≤ fuel :=
          Nat.le_of_lt_succ (Nat.lt_of_lt_of_le (length_lt_of_tagBehind? htag) h)
        rw [escapeTags_of_tag htag, List.append_assoc, List.append_assoc]
        -- Twice as many backslashes as before and one more are an odd number of them.
        obtain ⟨hcount, hbehind⟩ := tagBehind?_slashes htag
          (slashes (c :: rest) + slashes (c :: rest) + 1)
          (Markup.escapeTags fuel found.2 ++ List.replicate n '\\')
        exact .escaped hbehind (by rw [hcount]; omega) (ih hothers)

theorem of_escape (opened : List String) (cs : List Char) : Shows opened (escape cs) := by
  have hnone := of_escapeTags opened 0 (Nat.le_refl cs.length)
  rw [List.replicate_zero, List.append_nil] at hnone
  rw [escape, guardEnd]
  split
  · exact hnone
  · exact of_escapeTags opened 1 (Nat.le_refl cs.length)
  · exact hnone

theorem bare (hcs : isBare cs = true) (h : Shows opened rest) : Shows opened (cs ++ rest) := by
  induction cs with
  | nil => exact h
  | cons c cs ih =>
    rw [isBare, List.all_cons, Bool.and_eq_true, Bool.and_eq_true, bne_iff_ne, bne_iff_ne] at hcs
    obtain ⟨⟨hbracket, hslash⟩, hcs⟩ := hcs
    refine .char ?_ (ih hcs)
    rw [tagBehind?_of_ne hslash]
    exact tag?_of_ne hbracket _

theorem opening (hcs : isStyle cs = true) (h : ∀ name, Shows (name :: opened) rest) :
    Shows opened ('[' :: (cs ++ ']' :: rest)) := by
  cases cs with
  | nil => cases hcs
  | cons c body =>
    rw [isStyle, Bool.and_eq_true, List.all_eq_true] at hcs
    obtain ⟨hc, hbody⟩ := hcs
    have hstart : startsTag c = true := by simp only [startsTag, hc, Bool.true_or]
    have hname : (c :: body).takeWhile (· != '=') = c :: body.takeWhile (· != '=') :=
      List.takeWhile_cons_of_pos (by rw [bne_iff_ne]; rintro rfl; cases hc)
    have hstyles (position : Nat) : styles opened position (c :: body) =
        .ok (TextStyle.normalForm (c :: body.takeWhile (· != '=')) :: opened) := by
      rw [styles.eq_def, hname]
      dsimp only
      split
      next style heq =>
        obtain rfl : c = '/' := (List.cons.inj heq).1
        cases hc
      next => rfl
    exact style c body hstart (fun d hd => by simpa using hbody d hd) hstyles (h _)

theorem closing {name : String} (h : Shows opened rest) :
    Shows (name :: opened) ('[' :: '/' :: ']' :: rest) :=
  style '/' [] rfl nofun (fun _ => rfl) h

end Shows

end Markup

namespace Console

open Markup (isStyle isBare Shows)

/-- What stands in a style of its own can be shown whatever the message behind it is. -/
theorem shows_styled {style text : String} (hstyle : isStyle style.toList = true)
    (htext : isBare text.toList = true) (message : String) :
    Shows [] (styled style text message) := by
  have hmarkup : styled style text message =
      '[' :: (style.toList ++ ']' :: (text.toList ++
        '[' :: '/' :: ']' :: ([' '] ++ Markup.escape message.toList))) := by
    simp [styled, toString]
  rw [hmarkup]
  have hmessage := Shows.of_escape [] message.toList
  exact .opening hstyle fun name => .bare htext (.closing (.bare rfl hmessage))

theorem exists_display {markup : List Char} (h : Shows [] markup) :
    ∃ text, display markup = .ok text := by
  obtain ⟨text, htext⟩ := h markup.length 0 []
  have hplain : Markup.plain markup = .ok text := htext
  rw [display, hplain]
  exact ⟨_, rfl⟩

/-- A console whose colour is a style and whose project has a bare name prints every notice,
whatever its message is. -/
theorem exists_printed {c : Console} (hcolour : isStyle c.colour.toList = true)
    (hproject : isBare c.project.toList = true) (n : Notice) :
    ∃ text, c.printed n = .ok text := by
  rw [printed]
  split
  · exact ⟨_, rfl⟩
  · cases n with
    | greeting =>
      have hbold : isStyle s!"bold {c.colour}".toList = true := by
        have hfront : isStyle "bold ".toList = true := rfl
        simpa [toString] using Markup.isStyle_append hfront hcolour
      exact exists_display (shows_styled hbold hproject _)
    | step m => exact exists_display (shows_styled hcolour rfl m)
    | warning m => exact exists_display (shows_styled rfl rfl m)
    | error m => exact exists_display (shows_styled rfl rfl m)
    | debug m => exact ⟨_, rfl⟩

end Console

end SourceConventions
