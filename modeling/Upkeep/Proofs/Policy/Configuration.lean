import Upkeep.Config
import Upkeep.Proofs.Policy.Fields
import Upkeep.Proofs.Policy.Registry
/-!
# What a configuration says

The policy records of a configuration come from the section of its document that holds the entries
of the default record and the tables of the overrides. Nothing is passed on from one of them to
another: a record is the built-in one with the entries of a single table over it
(`Config.parse_follows`).
-/

namespace Upkeep

/-! ## Tables as they are handed over -/

theorem Value.mem_keys_insertEntry {key name : String} {v : Value}
    {entries : List (String × Value)} :
    key ∈ (insertEntry name v entries).map Prod.fst ↔
      key = name ∨ key ∈ entries.map Prod.fst := by
  induction entries with
  | nil => simp [insertEntry]
  | cons entry rest ih =>
    obtain ⟨k, w⟩ := entry
    unfold insertEntry
    split
    · simp
    split
    · next hname => simp [hname]
    · rw [List.map_cons, List.mem_cons, ih, List.map_cons, List.mem_cons]
      exact or_left_comm

theorem Value.mem_keys_normalizeEntries {key : String} {entries acc : List (String × Value)} :
    key ∈ (normalizeEntries acc entries).map Prod.fst ↔
      key ∈ acc.map Prod.fst ∨ key ∈ entries.map Prod.fst := by
  induction entries generalizing acc with
  | nil => simp [normalizeEntries]
  | cons entry rest ih =>
    obtain ⟨k, w⟩ := entry
    rw [normalizeEntries, ih, mem_keys_insertEntry, List.map_cons, List.mem_cons]
    tauto

theorem Value.map_fst_plainEntries {alone : Bool} {entries plain : List (String × Value)}
    (h : plainEntries alone entries = .ok plain) :
    plain.map Prod.fst = entries.map Prod.fst := by
  induction entries generalizing plain with
  | nil =>
    cases h
    rfl
  | cons entry rest ih =>
    obtain ⟨k, v⟩ := entry
    rw [plainEntries] at h
    split at h
    · cases h
    · obtain ⟨rest', hrest, rfl⟩ := exists_of_map_eq_ok h
      rw [List.map_cons, List.map_cons, ih hrest]

/-- A table that is handed over has the keys that it has in the document. -/
theorem Decoder.mem_keys_sortedEntries {alone : Bool} {entries sorted : List (String × Value)}
    (h : sortedEntries alone (.table entries) = .ok sorted) (key : String) :
    key ∈ sorted.map Prod.fst ↔ key ∈ entries.map Prod.fst := by
  obtain ⟨plain, hplain, rfl⟩ := exists_of_map_eq_ok h
  rw [Value.mem_keys_normalizeEntries, Value.map_fst_plainEntries hplain]
  simp

theorem Decoder.sortedEntries_eq_nil_iff {alone : Bool} {entries sorted : List (String × Value)}
    (h : sortedEntries alone (.table entries) = .ok sorted) : sorted = [] ↔ entries = [] := by
  have hkeys := mem_keys_sortedEntries h
  constructor
  · rintro rfl
    cases entries with
    | nil => rfl
    | cons entry rest => simpa using hkeys entry.1
  · rintro rfl
    cases sorted with
    | nil => rfl
    | cons entry rest => simpa using hkeys entry.1

theorem Decoder.items_eq_ok {α : Type} {d : Decoder α} {vs : List Value} {as : List α}
    (h : Decoder.items d vs = .ok as) : vs.map d = as.map .ok := by
  induction vs generalizing as with
  | nil =>
    cases h
    rfl
  | cons v vs ih =>
    unfold items at h
    split at h
    · cases h
    · next a ha =>
      obtain ⟨rest, hrest, rfl⟩ := exists_of_map_eq_ok h
      rw [List.map_cons, List.map_cons, ha, ih hrest]

/-- A document is a table. -/
theorem Toml.exists_table_of_parse? {text : String} {document : Value}
    (h : parse? text = some document) : ∃ entries, document = .table entries := by
  obtain ⟨statements, -, h⟩ := Option.bind_eq_some_iff.1 h
  obtain ⟨entries, -, rfl⟩ := Option.map_eq_some_iff.1 h
  exact ⟨_, rfl⟩

/-! ## Reading the sections -/

namespace Config

/-- The entries of the section of the policy records; a document without the section has none. -/
def policyEntries (document : Value) : List (String × Value) :=
  match document.get? "lifecycle" with
  | some (.table entries) => entries
  | _ => []

/-- The entries of the default record. -/
def defaultEntries (document : Value) : List (String × Value) :=
  (policyEntries document).filter (·.1 != PolicySection.overridesKey)

/-- The overrides. -/
def overrideItems (document : Value) : List Value :=
  match (policyEntries document).lookup PolicySection.overridesKey with
  | some (.list items) => items
  | _ => []

/-- The table of an override names a repository. -/
def Names (table : List (String × Value)) (r : RepositoryId) : Prop :=
  ∃ v rs, table.lookup PolicyOverride.repositoriesName = some v ∧
    Decoder.list Decoder.repositoryId v = .ok rs ∧ r ∈ rs

/-- The entries of an override that make its record. -/
def recordEntries (table : List (String × Value)) : List (String × Value) :=
  table.filter (·.1 != PolicyOverride.repositoriesName)

/-- What is read of the section of the policy records. -/
theorem policySection_eq_ok {document : Value} {s : PolicySection}
    (h : (match document.get? "lifecycle" with
      | some v => PolicySection.ofValue v
      | none => .ok {}) = .ok s) :
    Decoder.sortedEntries true (.table (defaultEntries document)) = .ok s.defaultEntries ∧
      (overrideItems document).map (Decoder.sortedEntries false) = s.overrides.map .ok := by
  unfold defaultEntries overrideItems policyEntries
  cases hsection : document.get? "lifecycle" with
  | none =>
    rw [hsection] at h
    cases h
    exact ⟨rfl, rfl⟩
  | some v =>
    rw [hsection] at h
    cases v with
    | table entries =>
      obtain ⟨overrides, hoverrides, h⟩ := exists_of_bind_eq_ok h
      obtain ⟨defaults, hdefaults, h⟩ := exists_of_bind_eq_ok h
      cases h
      refine ⟨hdefaults, ?_⟩
      unfold Fields.defaulted at hoverrides
      cases hitems : entries.lookup PolicySection.overridesKey with
      | none =>
        rw [hitems] at hoverrides
        cases hoverrides
        rfl
      | some w =>
        rw [hitems] at hoverrides
        cases w with
        | list items => exact Decoder.items_eq_ok hoverrides
        | _ => cases hoverrides
    | _ => cases h

/-- What is read of a file. -/
theorem file_eq_ok {entries : List (String × Value)} {file : ConfigFile}
    (h : ConfigFile.ofValue (.table entries) = .ok file) :
    (∃ v, (Value.table entries).get? "repos" = some v ∧
      Decoder.list Decoder.repositoryId v = .ok file.repositories) ∧
    Decoder.sortedEntries true (.table (defaultEntries (.table entries))) =
      .ok file.policies.defaultEntries ∧
    (overrideItems (.table entries)).map (Decoder.sortedEntries false) =
      file.policies.overrides.map .ok := by
  obtain ⟨checked, hchecked, h⟩ := exists_of_bind_eq_ok h
  obtain ⟨-, -, rfl⟩ := exists_of_map_eq_ok hchecked
  obtain ⟨repositories, hrepositories, h⟩ := exists_of_bind_eq_ok h
  obtain ⟨concurrency, -, h⟩ := exists_of_bind_eq_ok h
  obtain ⟨timeout, -, h⟩ := exists_of_bind_eq_ok h
  obtain ⟨gitHub, -, h⟩ := exists_of_bind_eq_ok h
  obtain ⟨zenHub, -, h⟩ := exists_of_bind_eq_ok h
  obtain ⟨policies, hpolicies, h⟩ := exists_of_bind_eq_ok h
  cases h
  refine ⟨?_, policySection_eq_ok hpolicies⟩
  unfold Fields.required at hrepositories
  split at hrepositories
  · next v hv => exact ⟨v, hv, hrepositories⟩
  · cases hrepositories

theorem override_eq_ok {table : List (String × Value)} {o : PolicyOverride}
    (h : PolicyOverride.ofEntries table = .ok o) :
    (∀ r, Names table r ↔ r ∈ o.repositories) ∧
      PolicyRecord.OverBuiltin (recordEntries table) o.record := by
  obtain ⟨repositories, hrepositories, h⟩ := exists_of_bind_eq_ok h
  obtain ⟨record, hrecord, h⟩ := exists_of_bind_eq_ok h
  cases h
  constructor
  · intro r
    replace hrepositories := eq_ok_of_mapError hrepositories
    unfold Fields.defaulted at hrepositories
    unfold Names
    cases hlookup : table.lookup PolicyOverride.repositoriesName with
    | none =>
      rw [hlookup] at hrepositories
      cases hrepositories
      simp
    | some v =>
      rw [hlookup] at hrepositories
      simp only at hrepositories
      simp [hrepositories]
  · exact PolicyRecord.overBuiltin_of_ofValue (eq_ok_of_mapError hrecord)

theorem overrides_eq_ok {position : Nat} {tables : List (List (String × Value))}
    {overrides : List PolicyOverride}
    (h : PolicySection.readOverrides position tables = .ok overrides) :
    tables.map PolicyOverride.ofEntries = overrides.map .ok := by
  induction tables generalizing position overrides with
  | nil =>
    cases h
    rfl
  | cons table tables ih =>
    unfold PolicySection.readOverrides at h
    split at h
    · cases h
    · next o ho =>
      obtain ⟨rest, hrest, rfl⟩ := exists_of_map_eq_ok h
      rw [List.map_cons, List.map_cons, ho, ih hrest]

theorem default_eq_ok {s : PolicySection} {default? : Option PolicyRecord}
    (h : s.default? = .ok default?) :
    (s.defaultEntries = [] ∧ default? = none) ∨
      s.defaultEntries ≠ [] ∧
        ∃ record, default? = some record ∧ PolicyRecord.OverBuiltin s.defaultEntries record := by
  unfold PolicySection.default? at h
  split at h
  · next hempty =>
    cases h
    exact .inl ⟨List.isEmpty_iff.1 hempty, rfl⟩
  · next hempty =>
    obtain ⟨record, hrecord, rfl⟩ := exists_of_map_eq_ok (eq_ok_of_mapError h)
    exact .inr ⟨mt List.isEmpty_iff.2 hempty, record, rfl,
      PolicyRecord.overBuiltin_of_ofValue hrecord⟩

/-- What a configuration is made of. -/
theorem ofFile_eq_ok {file : ConfigFile} {c : Config} (h : ofFile file = .ok c) :
    ∃ default? overrides, file.policies.default? = .ok default? ∧
      file.policies.overrides.map PolicyOverride.ofEntries = overrides.map .ok ∧
      Registry.build file.repositories default? overrides = .ok c.registry ∧
      1 ≤ c.concurrency := by
  obtain ⟨default?, hdefault, h⟩ := exists_of_bind_eq_ok h
  obtain ⟨overrides, hoverrides, h⟩ := exists_of_bind_eq_ok h
  obtain ⟨registry, hregistry, h⟩ := exists_of_bind_eq_ok h
  split at h
  · cases h
  · next hconcurrency =>
    cases h
    exact ⟨default?, overrides, hdefault, overrides_eq_ok hoverrides,
      eq_ok_of_mapError hregistry, Nat.one_le_iff_ne_zero.2 hconcurrency⟩

/-! ## What the configuration says -/

/-- The repository has the record that a table makes over the built-in one. -/
def HasRecord (c : Config) (r : RepositoryId) (table : List (String × Value)) : Prop :=
  ∃ record, c.registry.recordFor r = some record ∧
    ∀ other, PolicyRecord.OverBuiltin table other ↔ other = record

/-- What is remarked about a repository with a record, or without one. -/
def remarks (r : RepositoryId) : Option PolicyRecord → List ConfigWarning
  | none => [.noPolicy r]
  | some record =>
    [.pullRequest, .featureRequest, .issue].filterMap fun kind =>
      if (record.stalenessDelays kind).stale.seconds < (record.stalenessDelays kind).close.seconds
      then none
      else some (.closesUnwarned r kind)

/-- A configuration says what its document says. The tables of the overrides are given as they are
handed over for reading. -/
structure Follows (document : Value) (overrides : List (List (String × Value))) (c : Config) :
    Prop where
  repositories : ∃ v, document.get? "repos" = some v ∧
    Decoder.list Decoder.repositoryId v = .ok c.registry.repositories
  overridden : ∀ r ∈ c.registry.repositories, ∀ table ∈ overrides, Names table r →
    c.HasRecord r (recordEntries table)
  others : ∀ r ∈ c.registry.repositories, (∀ table ∈ overrides, ¬ Names table r) →
    (defaultEntries document = [] ∧ c.registry.recordFor r = none) ∨
      defaultEntries document ≠ [] ∧
        ∃ table, Decoder.sortedEntries true (.table (defaultEntries document)) = .ok table ∧
          c.HasRecord r table
  concurrency : 1 ≤ c.concurrency
  warnings : c.warnings =
    c.registry.repositories.flatMap fun r => remarks r (c.registry.recordFor r)

theorem hasRecord_of {c : Config} {r : RepositoryId} {table : List (String × Value)}
    {record : PolicyRecord} (hrecord : c.registry.recordFor r = some record)
    (h : PolicyRecord.OverBuiltin table record) : c.HasRecord r table := by
  refine ⟨record, hrecord, fun other => ⟨fun hother => hother.unique h, ?_⟩⟩
  rintro rfl
  exact h

theorem remarks_some (r : RepositoryId) (record : PolicyRecord) :
    remarks r (some record) = record.orderingViolations.map (.closesUnwarned r) := by
  rw [PolicyRecord.orderingViolations, ← List.filterMap_eq_map, List.filterMap_filter]
  apply List.filterMap_congr
  intro kind _
  simp only [decide_eq_true_eq, ← Nat.not_lt, ite_not, Function.comp_apply]

theorem warnings_eq (c : Config) : c.warnings =
    c.registry.repositories.flatMap fun r => remarks r (c.registry.recordFor r) := by
  unfold warnings
  congr 1
  funext r
  cases c.registry.recordFor r with
  | none => rfl
  | some record => exact (remarks_some r record).symm

theorem follows_of_ofFile {entries : List (String × Value)} {file : ConfigFile} {c : Config}
    (hfile : ConfigFile.ofValue (.table entries) = .ok file) (h : ofFile file = .ok c) :
    Follows (.table entries) file.policies.overrides c := by
  obtain ⟨hrepositories, hdefaults, -⟩ := file_eq_ok hfile
  obtain ⟨default?, overrides, hdefault, hoverrides, hbuild, hconcurrency⟩ := ofFile_eq_ok h
  obtain ⟨hwell, hregistry⟩ := Registry.build_eq_ok_iff.1 hbuild
  refine ⟨?_, ?_, ?_, hconcurrency, warnings_eq c⟩
  · rwa [hregistry]
  · -- The override that is made of the table names the repository too.
    intro r _ table htable hnames
    have hmem := List.mem_map_of_mem (f := PolicyOverride.ofEntries) htable
    rw [hoverrides] at hmem
    obtain ⟨o, ho, hof⟩ := List.mem_map.1 hmem
    obtain ⟨hiff, hover⟩ := override_eq_ok hof.symm
    refine hasRecord_of ?_ hover
    rw [hregistry]
    exact Registry.recordFor_of_named hwell ho ((hiff r).1 hnames)
  · intro r hr hnone
    -- An override that named the repository would have been made of a table that does.
    have hnamed : r ∉ Registry.named overrides := by
      intro hmem
      obtain ⟨o, ho, hro⟩ := Registry.mem_named.1 hmem
      have hmem := List.mem_map_of_mem (f := Except.ok (ε := OverrideError)) ho
      rw [← hoverrides] at hmem
      obtain ⟨table, htable, hof⟩ := List.mem_map.1 hmem
      exact hnone table htable (((override_eq_ok hof).1 r).2 hro)
    rw [hregistry] at hr
    have hrecord : c.registry.recordFor r = default? := by
      rw [hregistry]
      exact Registry.recordFor_of_not_named hr hnamed
    have hempty := Decoder.sortedEntries_eq_nil_iff hdefaults
    rcases default_eq_ok hdefault with ⟨hnil, hd⟩ | ⟨hnil, record, hd, hover⟩
    · exact .inl ⟨hempty.1 hnil, hrecord.trans hd⟩
    · exact .inr ⟨mt hempty.2 hnil, _, hdefaults, hasRecord_of (hrecord.trans hd) hover⟩

/-- A configuration that is read says what its document says: the record of a repository is made of
the one table that is for it, and the remarks are those that there are to be made. -/
theorem parse_follows {text : String} {c : Config} (h : parse text = .ok c) :
    ∃ document overrides, Toml.parse? text = some document ∧
      (overrideItems document).map (Decoder.sortedEntries false) = overrides.map .ok ∧
      Follows document overrides c := by
  unfold parse at h
  cases hdocument : Toml.parse? text with
  | none => rw [hdocument] at h; cases h
  | some document =>
    obtain ⟨entries, rfl⟩ := Toml.exists_table_of_parse? hdocument
    rw [hdocument] at h
    simp only [ofDocument] at h
    split at h
    · cases h
    · next file hfile =>
      exact ⟨_, file.policies.overrides, rfl, (file_eq_ok hfile).2.2, follows_of_ofFile hfile h⟩

/-- Two repositories. One of them has a record of its own, which shares nothing with the default
record and closes issues that were never marked stale. -/
def sampleText : String :=
  "\n".intercalate
    ["repos = ['istio/api', 'istio/istio']",
      "[lifecycle]",
      "triage_delay = '5d'",
      "[[lifecycle.overrides]]",
      "repos = ['istio/api']",
      "issue_close_delay = '30d'"]

theorem parse_follows_sample : ∃ c, parse sampleText = .ok c ∧
    (∃ document overrides, Toml.parse? sampleText = some document ∧
      (overrideItems document).map (Decoder.sortedEntries false) = overrides.map .ok ∧
      Follows document overrides c) ∧
    c.registry.records = [(⟨"istio", "api"⟩, { issueCloseDelay := .days 30 }),
      (⟨"istio", "istio"⟩, { triageDelay := .days 5 })] ∧
    c.warnings = [.closesUnwarned ⟨"istio", "api"⟩ .issue] := by
  have hparse : (parse sampleText).map (fun c => (c.registry.records, c.warnings)) =
      .ok ([(⟨"istio", "api"⟩, { issueCloseDelay := .days 30 }),
        (⟨"istio", "istio"⟩, { triageDelay := .days 5 })],
        [.closesUnwarned ⟨"istio", "api"⟩ .issue]) := by
    decide +kernel
  obtain ⟨c, hc, hsays⟩ := exists_of_map_eq_ok hparse
  obtain ⟨hrecords, hwarnings⟩ := Prod.mk.inj hsays
  exact ⟨c, hc, parse_follows hc, hrecords, hwarnings⟩

end Config

end Upkeep
