import SourceConventions.Proofs.Number.Value
import SourceConventions.Proofs.Settings.Reading
import SourceConventions.Settings.Load

/-!
# Which tables are settings

A table stands for settings exactly if what it has under each known key is of the kind of that key;
nothing else in it matters. Every setting is then what its own keys say. All other tables are
refused with one finding for each id that no rule has, and with none if there is something else
wrong; only an integer that cannot be written, where a severity should be, ends in a mishap.
-/

namespace SourceConventions

open Number

/-- What the table of rules may be: every id in it is that of a rule, and every entry says
something. -/
def Setting.IsRules (v : Setting) : Prop :=
  ∃ fields, v = .table fields ∧
    ∀ rule entry, (rule, entry) ∈ fields → (∃ r : Rule, r.id = rule) ∧ ∃ e, entry.IsEntry e

/-- That a table stands for settings. -/
structure SettingTable.IsValid (t : SettingTable) : Prop where
  rules : ∀ v ∈ t.get? "rules", v.IsRules
  texts : ∀ key ∈ ["exclude", "verb_prefixes", "extend_verb_prefixes", "generic_names",
    "required_dirs"], ∀ v ∈ t.get? key, v = .null ∨ ∃ l : List String, v = .list (l.map .text)
  counts : ∀ key ∈ ["max_attempts_style_threshold", "generic_name_max_statements"],
    ∀ v ∈ t.get? key, ∃ n : Nat, v = .int n
  numbers : ∀ v ∈ t.get? "allowed_numbers", ∃ items, v = .list items ∧
    ∀ i ∈ items, (∃ n, i = .int n) ∨ ∃ x, i = .real x
  flag : ∀ v ∈ t.get? "typing_public_only", ∃ b, v = .bool b

/-- That settings are what a table says, each of them by its own keys. -/
structure Settings.Reflects (s : Settings) (t : SettingTable) (source : String) : Prop where
  source : s.source = source
  table : s.table = t
  exclude : t.ReadsTexts "exclude" [] s.exclude
  retryThreshold : t.Reads "max_attempts_style_threshold" defaultRetryThreshold Setting.IsCount
    s.retryThreshold
  genericStatements : t.Reads "generic_name_max_statements" defaultGenericStatements
    Setting.IsCount s.genericStatements
  verbs : ∃ own more, t.ReadsTexts "verb_prefixes" defaultVerbs own ∧
    t.ReadsTexts "extend_verb_prefixes" [] more ∧ s.verbs.Nodup ∧
    ∀ verb, verb ∈ s.verbs ↔ verb ∈ own ∨ verb ∈ more
  genericNames : ∃ own, t.ReadsTexts "generic_names" defaultGenericNames own ∧
    s.genericNames.Nodup ∧ ∀ name, name ∈ s.genericNames ↔ name ∈ own
  requiredDirectories : t.ReadsTexts "required_dirs" defaultRequiredDirectories
    s.requiredDirectories
  allowedNumbers : ∃ own, t.Reads "allowed_numbers" [] Setting.IsNumbers own ∧
    s.allowedNumbers.Sublist own ∧ s.allowedNumbers.Pairwise (fun n m => ¬ n.SameValue m) ∧
    ∀ n : Numeral, (∃ m ∈ s.allowedNumbers, n.SameValue m) ↔ ∃ m ∈ own, n.SameValue m
  publicOnly : t.Reads "typing_public_only" true Setting.IsFlag s.publicOnly
  rules : ∃ fields, t.ReadsRules fields ∧ (fields.keys.Nodup → ∀ rule, ∃ e : Option RuleEntry,
    Option.Rel Setting.IsEntry (fields.get? rule) e ∧
    s.isEnabled rule = (e.bind RuleEntry.enabled).getD true ∧
    s.severity? rule = e.bind RuleEntry.severity)

namespace Settings

variable {t : SettingTable} {source : String} {s : Settings}

/-! ### The entries of the rules -/

/-- Rules with what is said about them. -/
abbrev Entries := List (String × RuleEntry)

theorem ruleEntries_eq_mapM (fields : SettingTable) :
    ruleEntries fields = fields.mapM fun f => (ruleEntry f.1 f.2).map (f.1, ·) := by
  induction fields with
  | nil => rfl
  | cons f rest ih =>
    rw [ruleEntries, List.mapM_cons, ih]
    cases ruleEntry f.1 f.2 <;> rfl

theorem answer_eq_ok_iff {f : String × Setting} {e : String × RuleEntry} :
    (ruleEntry f.1 f.2).map (f.1, ·) = .ok e ↔ e.1 = f.1 ∧ f.2.IsEntry e.2 := by
  rw [← @ruleEntry_eq_ok_iff f.1]
  cases ruleEntry f.1 f.2 <;> simp [Except.map, Prod.ext_iff, eq_comm]

theorem ruleEntries_eq_ok_iff {fields : SettingTable} {entries : Entries} :
    ruleEntries fields = .ok entries ↔
      List.Forall₂ (fun f e => e.1 = f.1 ∧ f.2.IsEntry e.2) fields entries := by
  rw [ruleEntries_eq_mapM, Traversal.mapM_eq_ok_iff]
  simp only [answer_eq_ok_iff]

theorem exists_ruleEntries_iff {fields : SettingTable} :
    (∃ entries, ruleEntries fields = .ok entries) ↔ ∀ f ∈ fields, ∃ e, f.2.IsEntry e := by
  simp only [ruleEntries_eq_ok_iff, Traversal.exists_forall₂_iff]
  refine forall₂_congr fun f _ => ⟨?_, ?_⟩
  · rintro ⟨e, -, he⟩
    exact ⟨e.2, he⟩
  · rintro ⟨e, he⟩
    exact ⟨(f.1, e), rfl, he⟩

/-- What is said about a rule is looked for under its id only. -/
theorem find?_filterMap_map {α : Type} (said : RuleEntry → Option α) {entries : Entries}
    (h : (entries.map (·.1)).Nodup) (rule : String) :
    ((entries.filterMap fun e => (said e.2).map (e.1, ·)).find? (·.1 == rule)).map (·.2) =
      ((entries.find? (·.1 == rule)).map (·.2)).bind said := by
  induction entries with
  | nil => rfl
  | cons e rest ih =>
    obtain ⟨hnew, hrest⟩ := List.nodup_cons.mp h
    have ih := ih hrest
    rw [List.filterMap_cons, List.find?_cons (a := e)]
    cases hrule : e.1 == rule with
    | false =>
      cases said e.2 with
      | none => exact ih
      | some x => simpa only [Option.map_some, List.find?_cons, hrule] using ih
    | true =>
      cases hsaid : said e.2 with
      | some x => simp only [Option.map_some, List.find?_cons, hrule, Option.bind_some, hsaid]
      | none =>
        have hnone : rest.find? (·.1 == rule) = none := by
          refine List.find?_eq_none.mpr fun d hd hrule' => hnew ?_
          exact List.mem_map.mpr ⟨d, hd, (beq_iff_eq.mp hrule').trans (beq_iff_eq.mp hrule).symm⟩
        rw [hnone] at ih
        simpa only [Option.map_none, Option.map_some, Option.bind_some, Option.bind_none, hsaid]
          using ih

theorem keys_of_entries {fields : SettingTable} {entries : Entries}
    (h : List.Forall₂ (fun f e => e.1 = f.1 ∧ f.2.IsEntry e.2) fields entries) :
    fields.keys = entries.map (·.1) := by
  induction h with
  | nil => rfl
  | cons hfe _ ih => exact congrArg₂ List.cons hfe.1.symm ih

theorem rel_find? {fields : SettingTable} {entries : Entries}
    (h : List.Forall₂ (fun f e => e.1 = f.1 ∧ f.2.IsEntry e.2) fields entries) (rule : String) :
    Option.Rel Setting.IsEntry (fields.get? rule) ((entries.find? (·.1 == rule)).map (·.2)) := by
  induction h with
  | nil => exact .none
  | @cons f e fields entries hfe _ ih =>
    rw [SettingTable.get?, List.find?_cons, List.find?_cons, hfe.1]
    cases f.1 == rule with
    | true => exact .some hfe.2
    | false => exact ih

/-! ### All other settings -/

theorem general_eq_ok_iff :
    general t source = .ok s ↔
      ∃ fields, rulesAt t = .ok fields ∧
      ∃ exclude, t.ReadsTexts "exclude" [] exclude ∧
      ∃ retryThreshold, t.Reads "max_attempts_style_threshold" defaultRetryThreshold
        Setting.IsCount retryThreshold ∧
      ∃ genericStatements, t.Reads "generic_name_max_statements" defaultGenericStatements
        Setting.IsCount genericStatements ∧
      ∃ verbs, t.ReadsTexts "verb_prefixes" defaultVerbs verbs ∧
      ∃ moreVerbs, t.ReadsTexts "extend_verb_prefixes" [] moreVerbs ∧
      ∃ genericNames, t.ReadsTexts "generic_names" defaultGenericNames genericNames ∧
      ∃ requiredDirectories, t.ReadsTexts "required_dirs" defaultRequiredDirectories
        requiredDirectories ∧
      ∃ allowedNumbers, (∃ given, t.Reads "allowed_numbers" [] Setting.IsNumbers given ∧
        Sorting.distinctBy Numeral.same given = allowedNumbers) ∧
      ∃ publicOnly, t.Reads "typing_public_only" true Setting.IsFlag publicOnly ∧
      { source, table := t, exclude, retryThreshold, genericStatements
        verbs := Sorting.distinct (verbs ++ moreVerbs)
        genericNames := Sorting.distinct genericNames
        requiredDirectories, allowedNumbers, publicOnly, enabled := [], severities := [] } = s := by
  simp only [general, Traversal.bind_eq_ok_iff, stringsAt_eq_ok_iff, countAt_eq_ok_iff,
    flagAt_eq_ok_iff, numbersAt_eq_ok_iff, pure, Except.pure, Except.ok.injEq]

theorem ofTable_eq_ok_iff :
    ofTable t source = .ok s ↔
      ∃ g, general t source = .ok g ∧ ∃ rules, rulesAt t = .ok rules ∧
      ∃ entries, ruleEntries rules = .ok entries ∧
      { g with
        enabled := entries.filterMap fun e => e.2.enabled.map (e.1, ·)
        severities := entries.filterMap fun e => e.2.severity.map (e.1, ·) } = s := by
  simp only [ofTable, Traversal.bind_eq_ok_iff, pure, Except.pure, Except.ok.injEq]

/-! ### Which tables are read -/

theorem exists_isTexts_iff {v : Setting} {default : List String} :
    (∃ l, v.IsTexts default l) ↔ v = .null ∨ ∃ l : List String, v = .list (l.map .text) := by
  simp [Setting.IsTexts, exists_or]

theorem exists_isNumber_iff {v : Setting} :
    (∃ x, v.IsNumber x) ↔ (∃ n, v = .int n) ∨ ∃ x, v = .real x := by
  constructor
  · rintro ⟨_, n | x⟩
    · exact .inl ⟨n, rfl⟩
    · exact .inr ⟨x, rfl⟩
  · rintro (⟨n, rfl⟩ | ⟨x, rfl⟩)
    · exact ⟨_, .int n⟩
    · exact ⟨_, .real x⟩

theorem exists_isNumbers_iff {v : Setting} :
    (∃ l, v.IsNumbers l) ↔
      ∃ items, v = .list items ∧ ∀ i ∈ items, (∃ n, i = .int n) ∨ ∃ x, i = .real x := by
  simp only [Setting.IsNumbers, ← exists_isNumber_iff, ← Traversal.exists_forall₂_iff]
  rw [exists_comm]
  simp only [exists_and_left]

theorem exists_readsTexts_iff {key : String} (default : List String) :
    (∃ l, t.ReadsTexts key default l) ↔
      ∀ v ∈ t.get? key, v = .null ∨ ∃ l : List String, v = .list (l.map .text) := by
  simp only [SettingTable.exists_reads_iff, exists_isTexts_iff]

theorem exists_readsCount_iff {key : String} (default : Nat) :
    (∃ n, t.Reads key default Setting.IsCount n) ↔ ∀ v ∈ t.get? key, ∃ n : Nat, v = .int n :=
  SettingTable.exists_reads_iff

theorem unknownRules_eq_nil_iff {fields : SettingTable}
    (h : t.get? "rules" = some (.table fields)) :
    unknownRules t = [] ↔ ∀ f ∈ fields, ∃ r : Rule, r.id = f.1 := by
  simp [unknownRules, h, SettingTable.keys, Rule.mem_all]

/-- The table of rules is read if it is one, all its ids are known and each entry says something. -/
theorem exists_entries_iff :
    (∃ rules, rulesAt t = .ok rules ∧ ∃ entries, ruleEntries rules = .ok entries) ↔
      ∀ v ∈ t.get? "rules", v.IsRules := by
  constructor
  · rintro ⟨rules, hrules, hentries⟩ v hv
    obtain ⟨hreads, hknown⟩ := rulesAt_eq_ok_iff.mp hrules
    have hrules : Setting.IsTable v rules := (SettingTable.reads_of_some hv).mp hreads
    cases hrules
    exact ⟨rules, rfl, fun rule entry hf => ⟨(unknownRules_eq_nil_iff hv).mp hknown _ hf,
      exists_ruleEntries_iff.mp hentries _ hf⟩⟩
  · intro h
    cases hkey : t.get? "rules" with
    | none =>
      exact ⟨[], rulesAt_eq_ok_iff.mpr ⟨.absent hkey, by rw [unknownRules, hkey]⟩, [], rfl⟩
    | some v =>
      obtain ⟨fields, rfl, hfields⟩ := h v hkey
      have hknown := (unknownRules_eq_nil_iff hkey).mpr fun f hf => (hfields f.1 f.2 hf).1
      exact ⟨fields, rulesAt_eq_ok_iff.mpr ⟨.given hkey rfl, hknown⟩,
        exists_ruleEntries_iff.mpr fun f hf => (hfields f.1 f.2 hf).2⟩

theorem exists_ofTable_iff : (∃ s, ofTable t source = .ok s) ↔ t.IsValid := by
  constructor
  · rintro ⟨s, hs⟩
    obtain ⟨g, hg, rules, hrules, entries, hentries, -⟩ := ofTable_eq_ok_iff.mp hs
    obtain ⟨_, _, exclude, hexclude, retryThreshold, hretry, genericStatements, hstatements,
      verbs, hverbs, moreVerbs, hmore, genericNames, hnames, requiredDirectories, hdirectories,
      allowedNumbers, ⟨given, hgiven, -⟩, publicOnly, hpublic, -⟩ := general_eq_ok_iff.mp hg
    constructor
    case rules => exact exists_entries_iff.mp ⟨rules, hrules, entries, hentries⟩
    case texts =>
      simp only [List.forall_mem_cons, List.not_mem_nil, false_imp_iff, implies_true, and_true]
      exact ⟨(exists_readsTexts_iff _).mp ⟨_, hexclude⟩, (exists_readsTexts_iff _).mp ⟨_, hverbs⟩,
        (exists_readsTexts_iff _).mp ⟨_, hmore⟩, (exists_readsTexts_iff _).mp ⟨_, hnames⟩,
        (exists_readsTexts_iff _).mp ⟨_, hdirectories⟩⟩
    case counts =>
      simp only [List.forall_mem_cons, List.not_mem_nil, false_imp_iff, implies_true, and_true]
      exact ⟨(exists_readsCount_iff _).mp ⟨_, hretry⟩,
        (exists_readsCount_iff _).mp ⟨_, hstatements⟩⟩
    case numbers =>
      intro v hv
      exact exists_isNumbers_iff.mp (SettingTable.exists_reads_iff.mp ⟨given, hgiven⟩ v hv)
    case flag => exact SettingTable.exists_reads_iff.mp ⟨publicOnly, hpublic⟩
  · intro h
    have htexts := fun key hkey default => (exists_readsTexts_iff default).mpr (h.texts key hkey)
    have hcounts := fun key hkey default => (exists_readsCount_iff default).mpr (h.counts key hkey)
    obtain ⟨rules, hrules, entries, hentries⟩ := exists_entries_iff.mpr h.rules
    obtain ⟨exclude, hexclude⟩ := htexts "exclude" (by simp) []
    obtain ⟨verbs, hverbs⟩ := htexts "verb_prefixes" (by simp) defaultVerbs
    obtain ⟨moreVerbs, hmore⟩ := htexts "extend_verb_prefixes" (by simp) []
    obtain ⟨names, hnames⟩ := htexts "generic_names" (by simp) defaultGenericNames
    obtain ⟨directories, hdirectories⟩ :=
      htexts "required_dirs" (by simp) defaultRequiredDirectories
    obtain ⟨retry, hretry⟩ :=
      hcounts "max_attempts_style_threshold" (by simp) defaultRetryThreshold
    obtain ⟨statements, hstatements⟩ :=
      hcounts "generic_name_max_statements" (by simp) defaultGenericStatements
    obtain ⟨given, hgiven⟩ : ∃ l, t.Reads "allowed_numbers" [] Setting.IsNumbers l :=
      SettingTable.exists_reads_iff.mpr fun v hv => exists_isNumbers_iff.mpr (h.numbers v hv)
    obtain ⟨publicOnly, hpublic⟩ :
        ∃ b, t.Reads "typing_public_only" true Setting.IsFlag b :=
      SettingTable.exists_reads_iff.mpr h.flag
    obtain ⟨g, hg⟩ : ∃ g, general t source = .ok g :=
      ⟨_, general_eq_ok_iff.mpr ⟨rules, hrules, exclude, hexclude, retry, hretry, statements,
        hstatements, verbs, hverbs, moreVerbs, hmore, names, hnames, directories, hdirectories,
        _, ⟨given, hgiven, rfl⟩, publicOnly, hpublic, rfl⟩⟩
    exact ⟨_, ofTable_eq_ok_iff.mpr ⟨g, hg, rules, hrules, entries, hentries, rfl⟩⟩

/-! ### What the settings are -/

theorem reflects_of_ofTable (h : ofTable t source = .ok s) : s.Reflects t source := by
  obtain ⟨g, hg, rules, hrules, entries, hentries, rfl⟩ := ofTable_eq_ok_iff.mp h
  obtain ⟨_, _, exclude, hexclude, retryThreshold, hretry, genericStatements, hstatements,
    verbs, hverbs, moreVerbs, hmore, genericNames, hnames, requiredDirectories, hdirectories,
    allowedNumbers, ⟨given, hgiven, rfl⟩, publicOnly, hpublic, rfl⟩ := general_eq_ok_iff.mp hg
  have hread := ruleEntries_eq_ok_iff.mp hentries
  constructor
  case source => rfl
  case table => rfl
  case exclude => exact hexclude
  case retryThreshold => exact hretry
  case genericStatements => exact hstatements
  case verbs =>
    exact ⟨verbs, moreVerbs, hverbs, hmore, Sorting.nodup_distinct _, fun verb => by
      rw [Sorting.mem_distinct, List.mem_append]⟩
  case genericNames =>
    exact ⟨genericNames, hnames, Sorting.nodup_distinct _, fun name => Sorting.mem_distinct⟩
  case requiredDirectories => exact hdirectories
  case allowedNumbers =>
    refine ⟨given, hgiven, Sorting.distinctBy_sublist _ _, ?_, fun n => ?_⟩
    · refine (Sorting.pairwise_distinctBy _ _).imp fun {n m} hnm => ?_
      rw [← Numeral.same_iff, hnm]
      exact Bool.false_ne_true
    · refine Sorting.exists_mem_distinctBy_iff fun a b hab hb => ?_
      obtain ⟨z, ha, hz⟩ := Numeral.same_iff.mp hab
      obtain ⟨w, hn, hw⟩ := hb
      exact ⟨w, hn, ha.trans (hz.symm.trans hw)⟩
  case publicOnly => exact hpublic
  case rules =>
    refine ⟨rules, (rulesAt_eq_ok_iff.mp hrules).1, fun hnodup rule =>
      ⟨_, rel_find? hread rule, ?_, find?_filterMap_map _ (keys_of_entries hread ▸ hnodup) rule⟩⟩
    exact congrArg (Option.getD · true)
      (find?_filterMap_map RuleEntry.enabled (keys_of_entries hread ▸ hnodup) rule)

/-! ### How tables are refused -/

/-- What is told of a rule id that no rule has. -/
def unknownRuleFinding (source id : String) : Finding where
  rule := "config.unknown-rule"
  severity := .error
  path := source
  line := 0
  message := s!"Unknown rule id '{id}'"
  column := none
  subject := some id
  demoted := false

/-- An integer with too many digits to be written stands where a severity of a rule should be. -/
def HoldsLongSeverity (t : SettingTable) : Prop :=
  ∃ rules rule fields v, t.ReadsRules rules ∧ (rule, .table fields) ∈ rules ∧
    SettingTable.get? fields "severity" = some v ∧ v.holdsLongInteger = true

/-- How a table is refused: with a finding for each id that no rule has, in order, as a fault of the
settings or, if a severity cannot be written, as a mishap. -/
structure Refuses (t : SettingTable) (source : String) (f : LoadFault) : Prop where
  findings : ∃ ids : List String, ids.Perm (unknownRules t) ∧ ids.Pairwise (· ≤ ·) ∧
    f.findings = ids.map (unknownRuleFinding source)
  kind : (∃ g, f = .table source g) ∨ HoldsLongSeverity t ∧ ∃ m, f = .mishap m

theorem Refuses.of_value {f : SettingsFault} (hknown : unknownRules t = [])
    (hf : ∀ ids, f ≠ .unknownRules ids) (hlong : f = .longInteger → HoldsLongSeverity t) :
    Refuses t source (.ofTable source f) := by
  have hnone : ([] : List String).Perm (unknownRules t) := .of_eq hknown.symm
  cases f with
  | unknownRules ids => exact absurd rfl (hf ids)
  | longInteger => exact ⟨⟨[], hnone, .nil, rfl⟩, .inr ⟨hlong rfl, _, rfl⟩⟩
  | _ => exact ⟨⟨[], hnone, .nil, rfl⟩, .inl ⟨_, rfl⟩⟩

theorem faultsAre_general {fields : SettingTable} (h : rulesAt t = .ok fields) :
    FaultsAre IsValueFault (general t source) := by
  refine .bind (h ▸ .ok fields) fun _ _ => ?_
  refine .bind (faultsAre_stringsAt _ _) fun _ _ => ?_
  refine .bind (faultsAre_countAt _ _) fun _ _ => ?_
  refine .bind (faultsAre_countAt _ _) fun _ _ => ?_
  refine .bind (faultsAre_stringsAt _ _) fun _ _ => ?_
  refine .bind (faultsAre_stringsAt _ _) fun _ _ => ?_
  refine .bind (faultsAre_stringsAt _ _) fun _ _ => ?_
  refine .bind (faultsAre_stringsAt _ _) fun _ _ => ?_
  refine .bind (faultsAre_numbersAt _) fun _ _ => ?_
  refine .bind (faultsAre_flagAt _ _) fun _ _ => ?_
  exact .ok _

theorem faultsAre_ruleEntries (fields : SettingTable) :
    FaultsAre (fun f => IsValueFault f ∨ f = .longInteger ∧ ∃ e ∈ fields, LongSeverity e.2)
      (ruleEntries fields) := by
  induction fields with
  | nil => exact .ok _
  | cons e rest ih =>
    refine .bind ((faultsAre_ruleEntry e.1 e.2).imp fun f hf => ?_) fun _ _ =>
      .bind (ih.imp fun f hf => ?_) fun _ _ => .ok _
    · exact hf.imp_right fun ⟨hlong, h⟩ => ⟨hlong, e, List.mem_cons_self, h⟩
    · exact hf.imp_right fun ⟨hlong, d, hd, h⟩ => ⟨hlong, d, List.mem_cons_of_mem e hd, h⟩

theorem unknownRules_of_rulesAt_error {f : SettingsFault} (h : rulesAt t = .error f) :
    f = .rulesNotTable ∧ unknownRules t = [] ∨
      f = .unknownRules (Sorting.strings (unknownRules t)) := by
  cases hkey : t.get? "rules" with
  | none =>
    rw [rulesAt, hkey] at h
    cases h
  | some v =>
    cases v with
    | table fields =>
      rw [rulesAt_of_table hkey] at h
      split at h <;> cases h
      exact .inr rfl
    | _ =>
      rw [rulesAt, hkey] at h
      cases h
      exact .inl ⟨rfl, by rw [unknownRules, hkey]⟩

theorem refuses_of_ofTable {f : SettingsFault} (h : ofTable t source = .error f) :
    Refuses t source (.ofTable source f) := by
  cases hrules : rulesAt t with
  | error g =>
    have hgeneral : general t source = .error g := by
      rw [general, hrules]
      rfl
    rw [ofTable, hgeneral] at h
    cases h
    obtain ⟨rfl, hknown⟩ | rfl := unknownRules_of_rulesAt_error hrules
    · exact .of_value hknown (by simp) (by simp)
    · exact ⟨⟨_, Sorting.sort_perm _ _, Sorting.pairwise_strings _, rfl⟩, .inl ⟨_, rfl⟩⟩
  | ok rules =>
    obtain ⟨hreads, hknown⟩ := rulesAt_eq_ok_iff.mp hrules
    have hfaults : FaultsAre (fun f => IsValueFault f ∨ f = .longInteger ∧
        ∃ e ∈ rules, LongSeverity e.2) (ofTable t source) := by
      refine .bind ((faultsAre_general hrules).imp fun _ => .inl) fun _ _ => ?_
      refine .bind (hrules ▸ .ok rules) fun given hgiven => ?_
      cases hrules.symm.trans hgiven
      exact .bind (faultsAre_ruleEntries rules) fun _ _ => .ok _
    obtain ⟨hlong, hunknown⟩ | ⟨rfl, e, he, fields, v, hfields, hv, hlong⟩ := hfaults f h
    · exact .of_value hknown hunknown fun hf => absurd hf hlong
    · exact .of_value hknown (by simp) fun _ =>
        ⟨rules, e.1, fields, v, hreads, hfields ▸ he, hv, hlong⟩

/-- The mishap does happen, whatever the rule. -/
theorem ofTable_of_longSeverity (rule : Rule) {n : Int} (hn : Numeral.integerText? n = none) :
    ofTable [("rules", .table [(rule.id, .table [("severity", .int n)])])] source =
      .error .longInteger := by
  have hseverity : severityOf rule.id (.int n) = .error .longInteger :=
    if_pos (by rw [Setting.holdsLongInteger, hn]; rfl)
  have hentries : ruleEntries [(rule.id, .table [("severity", .int n)])] = .error .longInteger := by
    simp only [ruleEntries, ruleEntry_table, severityIn, SettingTable.get?, List.find?_cons,
      beq_self_eq_true, Option.map_some, hseverity]
    rfl
  have hrules : rulesAt [("rules", .table [(rule.id, .table [("severity", .int n)])])] =
      .ok [(rule.id, .table [("severity", .int n)])] := by
    cases rule <;> rfl
  obtain ⟨g, hg⟩ : ∃ g, general [("rules", .table [(rule.id, .table [("severity", .int n)])])]
      source = .ok g := by
    cases rule <;> exact ⟨_, rfl⟩
  simp only [ofTable, hg, hrules, hentries, bind, Except.bind]

/-- A table stands for settings exactly if it is valid; they are then what it says, and any other
table is refused. Of all refusals, mishaps are those of severities that are integers too long to be
written, and these do happen. -/
theorem ofTable_exact (t : SettingTable) (source : String) :
    ((∃ s, ofTable t source = .ok s) ↔ t.IsValid) ∧
    (∀ s, ofTable t source = .ok s → s.Reflects t source) ∧
    (∀ f, ofTable t source = .error f → Refuses t source (.ofTable source f)) ∧
    ∀ (rule : Rule) (n : Int), Numeral.integerText? n = none →
      ofTable [("rules", .table [(rule.id, .table [("severity", .int n)])])] source =
        .error .longInteger :=
  ⟨exists_ofTable_iff, fun _ => reflects_of_ofTable, fun _ => refuses_of_ofTable,
    fun rule _ => ofTable_of_longSeverity rule⟩

/-- A table with a null, a severity in capital letters, a rule that is turned off and a key that
nothing knows. -/
def mixedTable : SettingTable := [
  ("exclude", .null),
  ("rules", .table [("naming.snake_case", .text "ERROR"),
    ("parse.error", .table [("enabled", .bool false)])]),
  ("allowed_numbers", .list [.int 2, .int 3, .int 2]),
  ("comment", .text "none")]

/-- A table with two ids that no rule has, and with a count that is none. -/
def misnamedTable : SettingTable := [
  ("rules", .table [("naming.snake", .bool true), ("parse.error", .bool true),
    ("naming.camel", .int 1)]),
  ("max_attempts_style_threshold", .bool true)]

theorem ofTable_exact_of_mixedTable :
    (∃ s, ofTable mixedTable "pyproject.toml" = .ok s ∧
      s.Reflects mixedTable "pyproject.toml") ∧
    Refuses misnamedTable "pyproject.toml"
      (.table "pyproject.toml" (.unknownRules ["naming.camel", "naming.snake"])) := by
  obtain ⟨s, hs⟩ : ∃ s, ofTable mixedTable "pyproject.toml" = .ok s := ⟨_, rfl⟩
  exact ⟨⟨s, hs, (ofTable_exact _ _).2.1 s hs⟩,
    (ofTable_exact misnamedTable "pyproject.toml").2.2.1 _ rfl⟩

end Settings

end SourceConventions
