import SourceConventions.Proofs.Json.Reading
import SourceConventions.Report.Format

/-!
# The JSON text of a report

The text is ASCII whatever characters the paths and messages have. What it tells of the findings is
read from it again, and nothing else is in it: reports with the same records have the same text.
-/

namespace SourceConventions

namespace Json

/-! ### Written values are ASCII -/

/-- A text all of whose characters are ASCII. -/
def IsAscii (cs : List Char) : Prop := ∀ c ∈ cs, c.toNat < 128

instance (cs : List Char) : Decidable (IsAscii cs) :=
  decidable_of_iff (cs.all (·.toNat < 128) = true) (by simp [IsAscii])

theorem isAscii_nil : IsAscii [] := fun _ h => absurd h List.not_mem_nil

theorem isAscii_cons {c : Char} {cs : List Char} : IsAscii (c :: cs) ↔ c.toNat < 128 ∧ IsAscii cs :=
  List.forall_mem_cons

theorem isAscii_append {cs ds : List Char} : IsAscii (cs ++ ds) ↔ IsAscii cs ∧ IsAscii ds :=
  List.forall_mem_append

theorem isAscii_flatMap {α : Type} {f : α → List Char} {as : List α} (h : ∀ a ∈ as, IsAscii (f a)) :
    IsAscii (as.flatMap f) := by
  intro c hc
  obtain ⟨a, ha, hc⟩ := List.mem_flatMap.mp hc
  exact h a ha c hc

theorem isAscii_unitEscape (n : Nat) : IsAscii (unitEscape n) := by
  have hall : ∀ m < 16, (hexDigit m).toNat < 128 := by decide
  have hdigit (m : Nat) : (hexDigit (m % 16)).toNat < 128 := hall _ (Nat.mod_lt m (by decide))
  simp only [unitEscape, isAscii_cons, hdigit, true_and]
  exact ⟨by decide, by decide, isAscii_nil⟩

theorem isAscii_escapeChar (c : Char) : IsAscii (escapeChar c) := by
  unfold escapeChar
  split
  iterate 7 exact isAscii_cons.mpr ⟨by decide, isAscii_cons.mpr ⟨by decide, isAscii_nil⟩⟩
  next =>
    split
    case isTrue hplain =>
      have hmost : c.toNat ≤ '~'.toNat := hplain.2
      exact isAscii_cons.mpr ⟨Nat.lt_of_le_of_lt hmost (by decide), isAscii_nil⟩
    case isFalse =>
      split
      · exact isAscii_unitEscape _
      · exact isAscii_append.mpr ⟨isAscii_unitEscape _, isAscii_unitEscape _⟩

theorem isAscii_quote (cs : List Char) : IsAscii (quote cs) := by
  refine isAscii_append.mpr ⟨isAscii_cons.mpr ⟨by decide, ?_⟩, isAscii_cons.mpr ⟨by decide, isAscii_nil⟩⟩
  exact isAscii_flatMap fun c _ => isAscii_escapeChar c

theorem isAscii_intText (n : Int) : IsAscii (intText n) := by
  have hdigits : IsAscii (Nat.toDigits 10 n.natAbs) := by
    intro c hc
    have hdigit := isDigit_of_mem_toDigits hc
    rw [Char.isDigit, Bool.and_eq_true, decide_eq_true_iff, decide_eq_true_iff] at hdigit
    have hmost : c.toNat ≤ '9'.toNat := hdigit.2
    exact Nat.lt_of_le_of_lt hmost (by decide)
  unfold intText
  split
  · exact isAscii_cons.mpr ⟨by decide, hdigits⟩
  · exact hdigits

theorem isAscii_enclose {opening : Char} (hopening : opening.toNat < 128)
    (hclosing : closing.toNat < 128) (h : ∀ text ∈ texts, IsAscii text) :
    IsAscii (enclose indent depth opening closing texts) := by
  have hspace : ∀ cs, (∀ c ∈ cs, isSpace c = true) → IsAscii cs := by
    intro cs hcs c hc
    rcases isSpace_iff.mp (hcs c hc) with rfl | rfl | rfl | rfl <;> decide
  have hline (depth : Nat) : IsAscii (lineBreak indent depth) := hspace _ (isSpace_lineBreak indent depth)
  have hentry : IsAscii (entryBreak indent (depth + 1)) := by
    obtain ⟨gap, hbreak, hgap⟩ := exists_entryBreak indent (depth + 1)
    exact hbreak ▸ isAscii_cons.mpr ⟨by decide, hspace gap hgap⟩
  have hend : IsAscii [closing] := isAscii_cons.mpr ⟨hclosing, isAscii_nil⟩
  cases texts with
  | nil => exact isAscii_cons.mpr ⟨hopening, hend⟩
  | cons text others =>
    obtain ⟨htext, hothers⟩ := List.forall_mem_cons.mp h
    have hrest := isAscii_flatMap fun e he => isAscii_append.mpr ⟨hentry, hothers e he⟩
    refine isAscii_append.mpr ⟨isAscii_append.mpr ⟨isAscii_append.mpr ⟨?_, hrest⟩, hline _⟩, hend⟩
    exact isAscii_append.mpr ⟨isAscii_cons.mpr ⟨hopening, hline _⟩, htext⟩

mutual

theorem isAscii_chars (indent : Option Nat) (depth : Nat) : ∀ {v : Json}, IsExact v →
    IsAscii (chars indent depth v)
  | .null, _ => show IsAscii ['n', 'u', 'l', 'l'] by decide
  | .bool true, _ => show IsAscii ['t', 'r', 'u', 'e'] by decide
  | .bool false, _ => show IsAscii ['f', 'a', 'l', 's', 'e'] by decide
  | .int n, _ => isAscii_intText n
  | .str s, _ => isAscii_quote s.toList
  | .arr _, h => isAscii_enclose (by decide) (by decide) (isAscii_items indent (depth + 1) h)
  | .obj _, h => isAscii_enclose (by decide) (by decide) (isAscii_fields indent (depth + 1) h)

theorem isAscii_items (indent : Option Nat) (depth : Nat) : ∀ {items : List Json}, AreExact items →
    ∀ text ∈ itemChars indent depth items, IsAscii text
  | [], _ => fun _ h => absurd h List.not_mem_nil
  | _ :: _, ⟨hv, hrest⟩ =>
    List.forall_mem_cons.mpr ⟨isAscii_chars indent depth hv, isAscii_items indent depth hrest⟩

theorem isAscii_fields (indent : Option Nat) (depth : Nat) : ∀ {fields : List (String × Json)},
    HasExact fields → ∀ text ∈ fieldChars indent depth fields, IsAscii text
  | [], _ => fun _ h => absurd h List.not_mem_nil
  | (key, _) :: _, ⟨hv, hrest⟩ => by
    refine List.forall_mem_cons.mpr ⟨isAscii_append.mpr ⟨isAscii_quote key.toList, ?_⟩,
      isAscii_fields indent depth hrest⟩
    exact isAscii_cons.mpr ⟨by decide, isAscii_cons.mpr ⟨by decide, isAscii_chars indent depth hv⟩⟩

end

end Json

/-! ### Records -/

/-- What a JSON report tells of a finding. -/
structure FindingRecord where
  path : String
  line : Int
  column : Option Int
  severity : Severity
  rule : String
  message : String
  deriving DecidableEq, Repr

namespace FindingRecord

def toJson (r : FindingRecord) : Json := .obj [
  ("file", .str r.path),
  ("line", .int r.line),
  ("column", match r.column with
    | none => .null
    | some column => .int column),
  ("severity", .str r.severity.name),
  ("rule_id", .str r.rule),
  ("message", .str r.message)]

/-- The errors, the warnings and the exit code of some records. -/
def summaryOf (records : List FindingRecord) : Json := .obj [
  ("errors", .int (records.countP (·.severity = .error))),
  ("warnings", .int (records.countP (·.severity = .warning))),
  ("exit_code", .int (if ∃ r ∈ records, r.severity = .error then 1 else 0))]

theorem toJson_injective : Function.Injective toJson := by
  intro r r' h
  obtain ⟨path, line, column, severity, rule, message⟩ := r
  obtain ⟨path', line', column', severity', rule', message'⟩ := r'
  have hseverity (h : severity.name = severity'.name) : severity = severity' :=
    Option.some.inj (by rw [← Severity.ofName?_name, h, Severity.ofName?_name])
  simp only [toJson, Json.obj.injEq, List.cons.injEq, Prod.mk.injEq, true_and, and_true,
    Json.str.injEq, Json.int.injEq] at h
  obtain ⟨hpath, hline, hcolumn, hname, hrule, hmessage⟩ := h
  have hcolumn : column = column' := by
    cases column <;> cases column' <;> simp_all
  rw [hpath, hline, hcolumn, hseverity hname, hrule, hmessage]

theorem isExact_toJson (r : FindingRecord) : Json.IsExact r.toJson := by
  obtain ⟨path, line, column, severity, rule, message⟩ := r
  cases column <;> simp [toJson, Json.IsExact, Json.HasExact]

end FindingRecord

def Finding.record (f : Finding) : FindingRecord :=
  ⟨f.path, f.line, f.column, f.severity, f.rule, f.message⟩

theorem Finding.toJson_eq (f : Finding) : f.toJson = f.record.toJson := by
  rw [toJson, FindingRecord.toJson, record]
  cases f.column <;> rfl

namespace Report

def records (r : Report) : List FindingRecord := r.findings.map Finding.record

theorem count_eq (r : Report) (s : Severity) : r.count s = r.records.countP (·.severity = s) := by
  rw [records, List.countP_map]
  exact List.countP_congr fun f _ => beq_iff_eq.trans decide_eq_true_iff.symm

theorem exitCode_eq (r : Report) :
    r.exitCode = if ∃ f ∈ r.records, f.severity = .error then 1 else 0 := by
  have herrors : r.hasErrors = true ↔ ∃ f ∈ r.records, f.severity = .error := by
    rw [hasErrors, decide_eq_true_iff, errors, count_eq, List.countP_pos_iff]
    simp only [decide_eq_true_iff]
  rw [exitCode]
  exact if_congr herrors rfl rfl

theorem toJson_eq (r : Report) : r.toJson = .obj [
    ("violations", .arr (r.records.map FindingRecord.toJson)),
    ("summary", FindingRecord.summaryOf r.records)] := by
  have hfindings : r.findings.map Finding.toJson = r.records.map FindingRecord.toJson := by
    rw [records, List.map_map]
    exact List.map_congr_left fun f _ => f.toJson_eq
  rw [toJson, hfindings, summaryJson, errors, warnings, count_eq, count_eq, exitCode_eq,
    FindingRecord.summaryOf]
  split <;> rfl

theorem isExact_toJson (r : Report) : Json.IsExact r.toJson := by
  have hrecords : ∀ records : List FindingRecord, Json.AreExact (records.map FindingRecord.toJson) := by
    intro records
    induction records with
    | nil => trivial
    | cons record records ih => exact ⟨record.isExact_toJson, ih⟩
  rw [toJson_eq]
  exact ⟨hrecords r.records, ⟨trivial, trivial, trivial, trivial⟩, trivial⟩

theorem toList_jsonText (indent : Option Nat) (r : Report) :
    (r.jsonText indent).toList = Json.chars indent 0 r.toJson ++ ['\n'] := by
  rw [jsonText, String.toList_append, Json.text, String.toList_ofList]
  rfl

theorem ofString?_jsonText (indent : Option Nat) (r : Report) :
    Json.ofString? (r.jsonText indent) = some r.toJson := by
  rw [Json.ofString?, toList_jsonText]
  exact Json.ofChars?_chars r.isExact_toJson indent (List.forall_mem_singleton.mpr rfl)

/-- **A JSON report is lossless.** Its text is ASCII, ends in one line end and is read as the records
of the findings, in order, and the summary that these have; so reports have one text just when they
have the same records. -/
theorem jsonText_lossless (r : Report) (indent : Option Nat) :
    Json.IsAscii (r.jsonText indent).toList ∧
    (∃ front last, (r.jsonText indent).toList = front ++ [last, '\n'] ∧ last ≠ '\n') ∧
    Json.ofString? (r.jsonText indent) = some (.obj [
      ("violations", .arr (r.records.map FindingRecord.toJson)),
      ("summary", FindingRecord.summaryOf r.records)]) ∧
    ∀ r' : Report, r.jsonText indent = r'.jsonText indent ↔ r.records = r'.records := by
  refine ⟨?_, ?_, ?_, fun r' => ⟨fun h => ?_, fun h => ?_⟩⟩
  · rw [toList_jsonText, Json.isAscii_append]
    exact ⟨Json.isAscii_chars indent 0 r.isExact_toJson, by decide⟩
  · obtain ⟨front, hfront⟩ : ∃ front, Json.chars indent 0 r.toJson = front ++ ['\x7d'] := ⟨_, rfl⟩
    refine ⟨front, '\x7d', ?_, by decide⟩
    rw [toList_jsonText, hfront, List.append_assoc]
    rfl
  · rw [ofString?_jsonText, toJson_eq]
  · have hread := ofString?_jsonText indent r
    rw [h, ofString?_jsonText, toJson_eq, toJson_eq] at hread
    simp only [Option.some.injEq, Json.obj.injEq, List.cons.injEq, Prod.mk.injEq, true_and,
      Json.arr.injEq] at hread
    exact (FindingRecord.toJson_injective.list_map hread.1).symm
  · rw [jsonText, jsonText, toJson_eq, toJson_eq, h]

end Report

end SourceConventions
