import SourceConventions.Proofs.Settings.Severity
import SourceConventions.Proofs.Sorting
import SourceConventions.Proofs.Traversal

/-!
# What the settings read under a key

Under its key a setting finds nothing, and has its default then, or a value of the one kind that it
stands for. Lists of texts may be null as well. Everything else is a fault of the key, and no fault
of the rest of the table.
-/

namespace SourceConventions

open Number

/-! ### Kinds of values -/

namespace Setting

/-- A list of texts; null gives the default. -/
def IsTexts (default : List String) (v : Setting) (l : List String) : Prop :=
  v = .null ∧ l = default ∨ v = .list (l.map .text)

def IsCount (v : Setting) (n : Nat) : Prop := v = .int n

def IsFlag (v : Setting) (b : Bool) : Prop := v = .bool b

inductive IsNumber : Setting → Numeral → Prop
  | int (n : Int) : IsNumber (.int n) (.integer n)
  | real (x : Binary64) : IsNumber (.real x) (.real x)

def IsNumbers (v : Setting) (l : List Numeral) : Prop :=
  ∃ items, v = .list items ∧ List.Forall₂ IsNumber items l

def IsTable (v : Setting) (fields : SettingTable) : Prop := v = .table fields

def IsSeverity (v : Setting) (s : Severity) : Prop := ∃ word, v = .text word ∧ s.Spells word

/-- What the entry of a rule may be: a switch, a severity, or a table that may have both. -/
inductive IsEntry : Setting → Settings.RuleEntry → Prop
  | switch (on : Bool) : IsEntry (.bool on) ⟨some on, none⟩
  | severity {v : Setting} {s : Severity} (h : v.IsSeverity s) : IsEntry v ⟨none, some s⟩
  | table {fields : SettingTable} {enabled : Option Bool} {severity : Option Severity}
      (henabled : Option.Rel IsFlag (fields.get? "enabled") enabled)
      (hseverity : Option.Rel IsSeverity (fields.get? "severity") severity) :
      IsEntry (.table fields) ⟨enabled, severity⟩

end Setting

/-! ### Values under a key -/

namespace SettingTable

/-- What a setting finds under a key: its default if there is nothing, or else what the value there
stands for. -/
inductive Reads {α : Type} (t : SettingTable) (key : String) (default : α)
    (P : Setting → α → Prop) : α → Prop
  | absent (h : t.get? key = none) : Reads t key default P default
  | given {v : Setting} {a : α} (h : t.get? key = some v) (hv : P v a) : Reads t key default P a

section Reads

variable {α : Type} {t : SettingTable} {key : String} {default a : α} {P : Setting → α → Prop}

theorem reads_of_none (h : t.get? key = none) : t.Reads key default P a ↔ default = a := by
  constructor
  · rintro (_ | ⟨hv, -⟩)
    · rfl
    · cases h.symm.trans hv
  · rintro rfl
    exact .absent h

theorem reads_of_some {v : Setting} (h : t.get? key = some v) :
    t.Reads key default P a ↔ P v a := by
  constructor
  · rintro (hv | ⟨hv, ha⟩)
    · cases h.symm.trans hv
    · cases h.symm.trans hv
      exact ha
  · exact .given h

theorem exists_reads_iff : (∃ a, t.Reads key default P a) ↔ ∀ v ∈ t.get? key, ∃ a, P v a := by
  cases h : t.get? key with
  | none => simp [reads_of_none h]
  | some v => simp [reads_of_some h]

end Reads

abbrev ReadsTexts (t : SettingTable) (key : String) (default : List String) :
    List String → Prop :=
  t.Reads key default (Setting.IsTexts default)

/-- The entries of the rules of a table. -/
abbrev ReadsRules (t : SettingTable) : SettingTable → Prop := t.Reads "rules" [] Setting.IsTable

end SettingTable

namespace Settings

variable {t : SettingTable} {key : String}

theorem strings?_eq_some_iff {v : Setting} {l : List String} :
    strings? v = some l ↔ v = .list (l.map .text) := by
  unfold strings?
  split
  next items =>
    rw [Traversal.mapM_eq_some_iff, Setting.list.injEq, ← List.forall₂_eq_eq_eq,
      List.forall₂_map_right_iff]
    constructor <;> refine fun h => h.imp fun v s hv => ?_
    · cases v <;> cases hv
      rfl
    · rw [hv]
  next h => exact iff_of_false (Option.some_ne_none l).symm fun hv => h _ hv

theorem numbers?_eq_some_iff {v : Setting} {l : List Numeral} :
    numbers? v = some l ↔ ∃ items, v = .list items ∧ List.Forall₂ Setting.IsNumber items l := by
  unfold numbers?
  split
  next items =>
    simp only [Traversal.mapM_eq_some_iff, Setting.list.injEq, exists_eq_left']
    constructor <;> refine fun h => h.imp fun v x hv => ?_
    · cases v <;> cases hv
      · exact .int _
      · exact .real _
    · cases hv <;> rfl
  next h => exact iff_of_false (Option.some_ne_none l).symm fun ⟨items, hv, _⟩ => h items hv

theorem stringsAt_eq_ok_iff {default l : List String} :
    stringsAt t key default = .ok l ↔ t.ReadsTexts key default l := by
  unfold SettingTable.ReadsTexts
  cases hkey : t.get? key with
  | none => rw [SettingTable.reads_of_none hkey, stringsAt, hkey, Except.ok.injEq]
  | some v =>
    rw [SettingTable.reads_of_some hkey, Setting.IsTexts, ← strings?_eq_some_iff, stringsAt, hkey]
    by_cases hnull : v = .null
    · subst hnull
      simp [strings?, eq_comm]
    · simp only [hnull, false_and, false_or]
      cases strings? v <;> simp

theorem countAt_eq_ok_iff {default n : Nat} :
    countAt t key default = .ok n ↔ t.Reads key default Setting.IsCount n := by
  cases hkey : t.get? key with
  | none => rw [SettingTable.reads_of_none hkey, countAt, hkey, Except.ok.injEq]
  | some v =>
    rw [SettingTable.reads_of_some hkey, Setting.IsCount, countAt, hkey]
    cases v with
    | int m =>
      rw [Setting.int.injEq]
      dsimp only
      split
      · rw [Except.ok.injEq]
        omega
      · simp
        omega
    | _ => simp

theorem flagAt_eq_ok_iff {default b : Bool} :
    flagAt t key default = .ok b ↔ t.Reads key default Setting.IsFlag b := by
  cases hkey : t.get? key with
  | none => rw [SettingTable.reads_of_none hkey, flagAt, hkey, Except.ok.injEq]
  | some v =>
    rw [SettingTable.reads_of_some hkey, Setting.IsFlag, flagAt, hkey]
    cases v <;> simp

theorem numbersAt_eq_ok_iff {l : List Numeral} :
    numbersAt t key = .ok l ↔ ∃ given, t.Reads key [] Setting.IsNumbers given ∧
      Sorting.distinctBy Numeral.same given = l := by
  cases hkey : t.get? key with
  | none =>
    simp only [SettingTable.reads_of_none hkey, numbersAt, hkey, Except.ok.injEq]
    simp [Sorting.distinctBy]
  | some v =>
    simp only [SettingTable.reads_of_some hkey, Setting.IsNumbers, ← numbers?_eq_some_iff,
      numbersAt, hkey]
    cases numbers? v <;> simp

/-- The ids in the table of rules that no rule has. -/
def unknownRules (t : SettingTable) : List String :=
  match t.get? "rules" with
  | some (.table fields) => (SettingTable.keys fields).filter (· ∉ Rule.all.map Rule.id)
  | _ => []

theorem ofId?_isNone_eq (id : String) :
    (Rule.ofId? id).isNone = decide (id ∉ Rule.all.map Rule.id) := by
  rw [Bool.eq_iff_iff, Option.isNone_iff_eq_none, decide_eq_true_iff, Rule.ofId?]
  simp

theorem rulesAt_of_table {fields : SettingTable} (h : t.get? "rules" = some (.table fields)) :
    rulesAt t = if unknownRules t = [] then .ok fields
      else .error (.unknownRules (Sorting.strings (unknownRules t))) := by
  have hunknown : unknownRules t =
      (SettingTable.keys fields).filter fun id => (Rule.ofId? id).isNone := by
    simp only [unknownRules, h, ofId?_isNone_eq]
  have hperm : (Sorting.strings (unknownRules t)).Perm (unknownRules t) := Sorting.sort_perm _ _
  simp only [rulesAt, h, ← hunknown]
  split
  next hids =>
    rw [hids, List.nil_perm] at hperm
    rw [if_pos hperm]
  next hids =>
    exact (if_neg fun hnil => hids (hperm.trans (.of_eq hnil)).eq_nil).symm

theorem rulesAt_eq_ok_iff {fields : SettingTable} :
    rulesAt t = .ok fields ↔ t.ReadsRules fields ∧ unknownRules t = [] := by
  unfold SettingTable.ReadsRules
  cases hkey : t.get? "rules" with
  | none =>
    rw [SettingTable.reads_of_none hkey, rulesAt, unknownRules, hkey]
    simp
  | some v =>
    rw [SettingTable.reads_of_some hkey, Setting.IsTable]
    cases v with
    | table given =>
      rw [rulesAt_of_table hkey, Setting.table.injEq]
      split
      next hknown => simp [hknown]
      next hknown => simp [hknown]
    | _ => simp [rulesAt, hkey]

theorem severityOf_eq_ok_iff {rule : String} {v : Setting} {s : Severity} :
    severityOf rule v = .ok s ↔ v.IsSeverity s := by
  unfold severityOf Setting.IsSeverity
  rw [← Setting.spells_shown_iff, ← Severity.ofText?_eq_some_iff]
  split
  next hlong =>
    refine iff_of_false (by simp) fun h => ?_
    rw [Severity.ofText?_eq_some_iff, Setting.spells_shown_iff] at h
    obtain ⟨word, rfl, -⟩ := h
    cases hlong
  next =>
    cases Severity.ofText? v.shown <;> simp

/-- The switch in the table of a rule. -/
def enabledIn (rule : String) (fields : SettingTable) : Except SettingsFault (Option Bool) :=
  match fields.get? "enabled" with
  | none => .ok none
  | some (.bool b) => .ok (some b)
  | some _ => .error (.enabledNotBoolean rule)

/-- The severity in the table of a rule. -/
def severityIn (rule : String) (fields : SettingTable) : Except SettingsFault (Option Severity) :=
  match fields.get? "severity" with
  | none => .ok none
  | some v => (severityOf rule v).map some

theorem ruleEntry_table (rule : String) (fields : SettingTable) :
    ruleEntry rule (.table fields) =
      enabledIn rule fields >>= fun enabled =>
        severityIn rule fields >>= fun severity => .ok ⟨enabled, severity⟩ := by
  rw [ruleEntry]
  unfold enabledIn severityIn
  cases fields.get? "enabled" with
  | none =>
    cases fields.get? "severity" with
    | none => rfl
    | some w => cases hw : severityOf rule w <;> simp only [hw] <;> rfl
  | some v =>
    cases v with
    | bool b =>
      cases fields.get? "severity" with
      | none => rfl
      | some w => cases hw : severityOf rule w <;> simp only [hw] <;> rfl
    | _ => rfl

theorem enabledIn_eq_ok_iff {rule : String} {fields : SettingTable} {enabled : Option Bool} :
    enabledIn rule fields = .ok enabled ↔
      Option.Rel Setting.IsFlag (fields.get? "enabled") enabled := by
  unfold enabledIn
  cases fields.get? "enabled" with
  | none => cases enabled <;> simp
  | some v => cases v <;> cases enabled <;> simp [Setting.IsFlag]

theorem severityIn_eq_ok_iff {rule : String} {fields : SettingTable} {severity : Option Severity} :
    severityIn rule fields = .ok severity ↔
      Option.Rel Setting.IsSeverity (fields.get? "severity") severity := by
  unfold severityIn
  cases fields.get? "severity" with
  | none => cases severity <;> simp
  | some v =>
    cases severity with
    | none => cases hv : severityOf rule v <;> simp [Except.map, hv]
    | some s =>
      rw [Option.rel_some_some, ← @severityOf_eq_ok_iff rule]
      cases hv : severityOf rule v <;> simp [Except.map, hv]

theorem ruleEntry_eq_ok_iff {rule : String} {v : Setting} {e : RuleEntry} :
    ruleEntry rule v = .ok e ↔ v.IsEntry e := by
  constructor
  · intro h
    cases v with
    | bool b =>
      cases h
      exact .switch b
    | text word =>
      rw [ruleEntry, Traversal.bind_eq_ok_iff] at h
      obtain ⟨s, hs, he⟩ := h
      cases he
      exact .severity (severityOf_eq_ok_iff.mp hs)
    | table fields =>
      simp only [ruleEntry_table, Traversal.bind_eq_ok_iff, Except.ok.injEq] at h
      obtain ⟨enabled, henabled, severity, hseverity, rfl⟩ := h
      exact .table (enabledIn_eq_ok_iff.mp henabled) (severityIn_eq_ok_iff.mp hseverity)
    | null => cases h
    | int _ => cases h
    | real _ => cases h
    | date _ => cases h
    | time _ => cases h
    | dateTime _ _ _ => cases h
    | list _ => cases h
  · intro h
    cases h with
    | switch on => rfl
    | severity h =>
      obtain ⟨word, rfl, hs⟩ := h
      rw [ruleEntry, severityOf_eq_ok_iff.mpr ⟨word, rfl, hs⟩]
      rfl
    | table henabled hseverity =>
      rw [ruleEntry_table, enabledIn_eq_ok_iff.mpr henabled, severityIn_eq_ok_iff.mpr hseverity]
      rfl

/-! ### Faults of values -/

/-- Whatever fault an answer is, it is one of a kind. -/
def FaultsAre {α : Type} (P : SettingsFault → Prop) (x : Except SettingsFault α) : Prop :=
  ∀ f, x = .error f → P f

namespace FaultsAre

variable {α β : Type} {P : SettingsFault → Prop}

theorem ok (a : α) : FaultsAre P (.ok a) := fun _ h => by cases h

theorem bind {x : Except SettingsFault α} {g : α → Except SettingsFault β} (hx : FaultsAre P x)
    (hg : ∀ a, x = .ok a → FaultsAre P (g a)) : FaultsAre P (x >>= g) := by
  cases x with
  | error e =>
    intro f h
    cases h
    exact hx e rfl
  | ok a => exact hg a rfl

theorem imp {Q : SettingsFault → Prop} {x : Except SettingsFault α} (hx : FaultsAre P x)
    (h : ∀ f, P f → Q f) : FaultsAre Q x := fun f hf => h f (hx f hf)

end FaultsAre

/-- A fault of a value, as opposed to one of the ids of rules. -/
def IsValueFault (f : SettingsFault) : Prop := f ≠ .longInteger ∧ ∀ ids, f ≠ .unknownRules ids

theorem faultsAre_stringsAt (key : String) (default : List String) :
    FaultsAre IsValueFault (stringsAt t key default) := by
  intro f h
  unfold stringsAt at h
  split at h
  · cases h
  · cases h
  · split at h <;> cases h
    exact ⟨by simp, by simp⟩

theorem faultsAre_countAt (key : String) (default : Nat) :
    FaultsAre IsValueFault (countAt t key default) := by
  intro f h
  unfold countAt at h
  split at h
  · cases h
  · split at h <;> cases h
    exact ⟨by simp, by simp⟩
  · cases h
    exact ⟨by simp, by simp⟩

theorem faultsAre_flagAt (key : String) (default : Bool) :
    FaultsAre IsValueFault (flagAt t key default) := by
  intro f h
  unfold flagAt at h
  split at h <;> cases h
  exact ⟨by simp, by simp⟩

theorem faultsAre_numbersAt (key : String) : FaultsAre IsValueFault (numbersAt t key) := by
  intro f h
  unfold numbersAt at h
  split at h
  · cases h
  · split at h <;> cases h
    exact ⟨by simp, by simp⟩

theorem faultsAre_severityOf (rule : String) (v : Setting) :
    FaultsAre (fun f => IsValueFault f ∨ f = .longInteger ∧ v.holdsLongInteger = true)
      (severityOf rule v) := by
  intro f h
  unfold severityOf at h
  split at h
  next hlong =>
    cases h
    exact .inr ⟨rfl, hlong⟩
  next =>
    split at h <;> cases h
    exact .inl ⟨by simp, by simp⟩

theorem faultsAre_enabledIn (rule : String) (fields : SettingTable) :
    FaultsAre IsValueFault (enabledIn rule fields) := by
  intro f h
  unfold enabledIn at h
  split at h <;> cases h
  exact ⟨by simp, by simp⟩

/-- An entry that has an integer with too many digits to be written where its severity should be. -/
def LongSeverity (v : Setting) : Prop :=
  ∃ fields w, v = .table fields ∧ SettingTable.get? fields "severity" = some w ∧
    w.holdsLongInteger = true

theorem faultsAre_severityIn (rule : String) (fields : SettingTable) :
    FaultsAre (fun f => IsValueFault f ∨ f = .longInteger ∧ LongSeverity (.table fields))
      (severityIn rule fields) := by
  intro f h
  unfold severityIn at h
  split at h
  next => cases h
  next v hv =>
    cases hs : severityOf rule v with
    | ok s =>
      rw [hs] at h
      cases h
    | error g =>
      rw [hs] at h
      cases h
      exact (faultsAre_severityOf rule v _ hs).imp_right fun ⟨hf, hlong⟩ =>
        ⟨hf, fields, v, rfl, hv, hlong⟩

theorem faultsAre_ruleEntry (rule : String) (v : Setting) :
    FaultsAre (fun f => IsValueFault f ∨ f = .longInteger ∧ LongSeverity v) (ruleEntry rule v) := by
  cases v with
  | bool b => exact .ok _
  | text word =>
    refine .bind ?_ fun _ _ => .ok _
    refine (faultsAre_severityOf rule (.text word)).imp fun f hf => hf.imp_right ?_
    rintro ⟨-, hlong⟩
    cases hlong
  | table fields =>
    rw [ruleEntry_table]
    refine .bind ((faultsAre_enabledIn rule fields).imp fun _ => .inl) fun _ _ => ?_
    exact .bind (faultsAre_severityIn rule fields) fun _ _ => .ok _
  | _ =>
    intro f h
    cases h
    exact .inl ⟨by simp, by simp⟩

end Settings

end SourceConventions
