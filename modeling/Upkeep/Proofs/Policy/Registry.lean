import Upkeep.Policy.Registry
import Mathlib.Data.List.Nodup
import Mathlib.Data.List.Perm.Basic
/-!
# Building a registry

A registry is built by going once through the repositories and once through the overrides. Both
passes stop at the first thing that is wrong, and `violations` lists everything that is: each
repository, override and name in reading order, judged against those in front of it. Building fails
with the head of that list, and enters `claims` if there is none (`build_eq`).

A configuration without violations is one in which every repository is listed once and claimed once
at most (`WellFormed`), so that the record of a repository does not depend on the order of the
overrides.
-/

namespace Upkeep.Registry

variable {repositories : List RepositoryId} {default? : Option PolicyRecord}
  {overrides : List PolicyOverride} {registry : Registry}

/-! ## What can be wrong -/

/-- What is said about each item of a list, given the items in front of it. -/
def judged {α β : Type} (judge : List α → α → List β) : List α → List α → List β
  | _, [] => []
  | before, x :: rest => judge before x ++ judged judge (before ++ [x]) rest

/-- A repository is listed once. -/
def repositoryViolations (before : List RepositoryId) (r : RepositoryId) : List RegistryError :=
  if r ∈ before then [.duplicateRepository r] else []

/-- An override names configured repositories, each of which nothing in front has named. -/
def nameViolations (repositories before : List RepositoryId) (r : RepositoryId) :
    List RegistryError :=
  if r ∉ repositories then [.unknownRepository r]
  else if r ∈ before then [.multipleRecords r]
  else []

/-- The repositories that overrides name, in reading order. -/
def named (overrides : List PolicyOverride) : List RepositoryId :=
  overrides.flatMap (·.repositories)

/-- An override names at least one repository. -/
def overrideViolations (repositories : List RepositoryId) (before : List PolicyOverride)
    (o : PolicyOverride) : List RegistryError :=
  if o.repositories = [] then [.emptyOverride before.length]
  else judged (nameViolations repositories) (named before) o.repositories

/-- All that is wrong with a configuration: of the repositories first, then of the overrides, each
in order. -/
def violations (repositories : List RepositoryId) (overrides : List PolicyOverride) :
    List RegistryError :=
  judged repositoryViolations [] repositories ++
    judged (overrideViolations repositories) [] overrides

/-- Nothing is wrong with a configuration. -/
structure WellFormed (repositories : List RepositoryId) (overrides : List PolicyOverride) :
    Prop where
  distinct : repositories.Nodup
  nonempty : ∀ o ∈ overrides, o.repositories ≠ []
  configured : ∀ r ∈ named overrides, r ∈ repositories
  /-- No repository is named twice, by one override or by two. -/
  unclaimed : (named overrides).Nodup

theorem named_append (a b : List PolicyOverride) : named (a ++ b) = named a ++ named b :=
  List.flatMap_append

theorem mem_named {r : RepositoryId} : r ∈ named overrides ↔ ∃ o ∈ overrides, r ∈ o.repositories :=
  List.mem_flatMap

/-- Nothing is said about a list exactly if nothing is said about any of its items. -/
theorem judged_eq_nil_iff {α β : Type} {judge : List α → α → List β} {before xs : List α} :
    judged judge before xs = [] ↔
      ∀ front x back, xs = front ++ x :: back → judge (before ++ front) x = [] := by
  induction xs generalizing before with
  | nil => simp [judged]
  | cons y ys ih =>
    rw [judged, List.append_eq_nil_iff, ih]
    constructor
    · rintro ⟨hy, hys⟩ front x back h
      cases front with
      | nil =>
        obtain ⟨rfl, rfl⟩ := List.cons.inj h
        rwa [List.append_nil]
      | cons z front =>
        obtain ⟨rfl, rfl⟩ := List.cons.inj h
        simpa using hys front x back rfl
    · intro h
      refine ⟨by simpa using h [] y ys rfl, fun front x back e => ?_⟩
      simpa using h (y :: front) x back (by rw [e, List.cons_append])

/-- A list has no repetition exactly if no item stands behind its like. -/
theorem nodup_append_iff {before xs : List RepositoryId} (hbefore : before.Nodup) :
    (before ++ xs).Nodup ↔ ∀ front x back, xs = front ++ x :: back → x ∉ before ++ front := by
  induction xs generalizing before with
  | nil => simpa using hbefore
  | cons y ys ih =>
    constructor
    · intro h front x back e hx
      rw [e, ← List.append_assoc] at h
      exact (List.nodup_append.1 h).2.2 x hx x List.mem_cons_self rfl
    · intro h
      have hy : y ∉ before := by simpa using h [] y ys rfl
      have hnext : (before ++ [y]).Nodup := by
        rw [List.nodup_append]
        simp only [hbefore, List.nodup_singleton, List.mem_singleton, true_and]
        rintro a ha b rfl rfl
        exact hy ha
      rw [List.append_cons, ih hnext]
      intro front x back e
      simpa using h (y :: front) x back (by rw [e, List.cons_append])

theorem judged_repositoryViolations_eq_nil :
    judged repositoryViolations [] repositories = [] ↔ repositories.Nodup := by
  rw [judged_eq_nil_iff, ← List.nil_append repositories, nodup_append_iff .nil]
  simp [repositoryViolations]

theorem judged_nameViolations_eq_nil {before names : List RepositoryId} (hbefore : before.Nodup) :
    judged (nameViolations repositories) before names = [] ↔
      (∀ r ∈ names, r ∈ repositories) ∧ (before ++ names).Nodup := by
  have hone (ns : List RepositoryId) (r : RepositoryId) :
      nameViolations repositories ns r = [] ↔ r ∈ repositories ∧ r ∉ ns := by
    unfold nameViolations
    split
    · simp_all
    split <;> simp_all
  simp only [judged_eq_nil_iff, hone, nodup_append_iff hbefore]
  constructor
  · intro h
    refine ⟨fun r hr => ?_, fun front x back e => (h front x back e).2⟩
    obtain ⟨front, back, e⟩ := List.append_of_mem hr
    exact (h front r back e).1
  · rintro ⟨hconf, hnew⟩ front x back rfl
    exact ⟨hconf x (by simp), hnew front x back rfl⟩

theorem judged_overrideViolations_eq_nil {before : List PolicyOverride}
    (hbefore : (named before).Nodup) :
    judged (overrideViolations repositories) before overrides = [] ↔
      (∀ o ∈ overrides, o.repositories ≠ []) ∧ (∀ r ∈ named overrides, r ∈ repositories) ∧
        (named before ++ named overrides).Nodup := by
  induction overrides generalizing before with
  | nil => simpa [judged, named] using hbefore
  | cons o rest ih =>
    have hcons : named (o :: rest) = o.repositories ++ named rest := List.flatMap_cons
    have hsnoc : named (before ++ [o]) = named before ++ o.repositories := by simp [named]
    by_cases hempty : o.repositories = []
    · simp [judged, overrideViolations, hempty]
    · rw [judged, overrideViolations, if_neg hempty, List.append_eq_nil_iff,
        judged_nameViolations_eq_nil hbefore]
      constructor
      · rintro ⟨⟨hconf, hnodup⟩, h⟩
        obtain ⟨hne, hconf', hnodup'⟩ := (ih (hsnoc ▸ hnodup)).1 h
        refine ⟨?_, ?_, ?_⟩
        · simpa [hempty] using hne
        · rw [hcons]
          simpa [or_imp, forall_and] using ⟨hconf, hconf'⟩
        · rwa [hcons, ← List.append_assoc, ← hsnoc]
      · rintro ⟨hne, hconf, hnodup⟩
        rw [hcons] at hconf hnodup
        rw [← List.append_assoc] at hnodup
        have hfirst := (List.nodup_append.1 hnodup).1
        refine ⟨⟨fun r hr => hconf r (List.mem_append_left _ hr), hfirst⟩, ?_⟩
        rw [ih (hsnoc ▸ hfirst), hsnoc]
        exact ⟨fun q hq => hne q (List.mem_cons_of_mem _ hq),
          fun r hr => hconf r (List.mem_append_right _ hr), hnodup⟩

theorem violations_eq_nil_iff : violations repositories overrides = [] ↔
    WellFormed repositories overrides := by
  rw [violations, List.append_eq_nil_iff, judged_repositoryViolations_eq_nil,
    judged_overrideViolations_eq_nil (show (named []).Nodup from .nil)]
  simp only [named, List.flatMap_nil, List.nil_append]
  constructor
  · rintro ⟨hd, hne, hc, hu⟩
    exact ⟨hd, hne, hc, hu⟩
  · rintro ⟨hd, hne, hc, hu⟩
    exact ⟨hd, hne, hc, hu⟩

/-! ## What building does -/

/-- The entries that overrides make, in reading order. -/
def claims (overrides : List PolicyOverride) : List (RepositoryId × PolicyRecord) :=
  overrides.flatMap fun o => o.repositories.map fun r => (r, o.record)

theorem claims_append (a b : List PolicyOverride) : claims (a ++ b) = claims a ++ claims b :=
  List.flatMap_append

theorem map_fst_claims (overrides : List PolicyOverride) :
    (claims overrides).map Prod.fst = named overrides := by
  simp [claims, named, List.map_flatMap, Function.comp_def]

/-- Fails with the first of the errors, if there is one. -/
def resultUnless {α : Type} (errors : List RegistryError) (result : α) : Except RegistryError α :=
  match errors.head? with
  | some e => .error e
  | none => .ok result

theorem firstRepeated?_eq {seen before rest : List RepositoryId}
    (hseen : ∀ r, r ∈ seen ↔ r ∈ before) :
    (firstRepeated? seen rest).map .duplicateRepository =
      (judged repositoryViolations before rest).head? := by
  induction rest generalizing seen before with
  | nil => rfl
  | cons r rest ih =>
    unfold firstRepeated?
    rw [judged, repositoryViolations]
    by_cases hr : r ∈ before
    · simp [hr, hseen]
    · rw [if_neg (mt (hseen r).1 hr), if_neg hr, List.nil_append]
      exact ih fun q => by simp [hseen, or_comm]

theorem isSome_lookup_iff {entries : List (RepositoryId × PolicyRecord)} {r : RepositoryId} :
    (entries.lookup r).isSome = true ↔ r ∈ entries.map Prod.fst := by
  rw [List.lookup_isSome_iff]
  simp

/-- The names of an override are entered up to the first that may not be. -/
theorem enter_eq (record : PolicyRecord) (entries : List (RepositoryId × PolicyRecord))
    (names : List RepositoryId) :
    enter repositories record entries names =
      resultUnless (judged (nameViolations repositories) (entries.map Prod.fst) names)
        (entries ++ names.map fun r => (r, record)) := by
  induction names generalizing entries with
  | nil => simp [enter, judged, resultUnless]
  | cons r rest ih =>
    unfold enter
    rw [judged, nameViolations]
    split
    · rfl
    · simp only [isSome_lookup_iff]
      split
      · rfl
      · rw [ih]
        simp

/-- The overrides are entered up to the first violation. -/
theorem enterAll_eq (before rest : List PolicyOverride) :
    enterAll repositories before.length (claims before) rest =
      resultUnless (judged (overrideViolations repositories) before rest)
        (claims (before ++ rest)) := by
  induction rest generalizing before with
  | nil => simp [enterAll, judged, resultUnless]
  | cons o rest ih =>
    have hnext := ih (before ++ [o])
    have hclaims : claims (before ++ [o]) =
        claims before ++ o.repositories.map fun r => (r, o.record) := by
      simp [claims]
    rw [List.length_append, List.length_singleton, hclaims, ← List.append_cons] at hnext
    unfold enterAll
    rw [judged, overrideViolations, enter_eq, map_fst_claims]
    by_cases hempty : o.repositories = []
    · simp [hempty, resultUnless]
    · simp only [List.isEmpty_iff, hempty, if_false]
      cases hnames : judged (nameViolations repositories) (named before) o.repositories with
      | nil => exact hnext
      | cons e es => rfl

/-- Building a registry reports the first violation, or enters what the overrides claim. -/
theorem build_eq (repositories : List RepositoryId) (default? : Option PolicyRecord)
    (overrides : List PolicyOverride) :
    build repositories default? overrides =
      resultUnless (violations repositories overrides)
        ⟨repositories, default?, claims overrides⟩ := by
  have hrepeated : (firstRepeated? [] repositories).map .duplicateRepository =
      (judged repositoryViolations [] repositories).head? := firstRepeated?_eq fun _ => .rfl
  rw [violations]
  unfold build
  cases hr : judged repositoryViolations [] repositories with
  | cons e es =>
    rw [hr] at hrepeated
    obtain ⟨r, hfirst, rfl⟩ := Option.map_eq_some_iff.1 hrepeated
    rw [hfirst]
    rfl
  | nil =>
    rw [hr] at hrepeated
    rw [Option.map_eq_none_iff.1 hrepeated]
    show (enterAll repositories 0 [] overrides).map _ = _
    have hstart : enterAll repositories 0 [] overrides =
        resultUnless (judged (overrideViolations repositories) [] overrides) (claims overrides) :=
      enterAll_eq [] overrides
    rw [hstart, List.nil_append]
    unfold resultUnless
    cases (judged (overrideViolations repositories) [] overrides).head? <;> rfl

theorem build_eq_error_iff {e : RegistryError} : build repositories default? overrides = .error e ↔
    (violations repositories overrides).head? = some e := by
  rw [build_eq]
  unfold resultUnless
  cases (violations repositories overrides).head? <;> simp

theorem build_eq_ok_iff : build repositories default? overrides = .ok registry ↔
    WellFormed repositories overrides ∧ registry = ⟨repositories, default?, claims overrides⟩ := by
  rw [build_eq, ← violations_eq_nil_iff]
  cases violations repositories overrides with
  | nil => simp [resultUnless, eq_comm]
  | cons e es => simp [resultUnless]

/-- No repository is configured twice. -/
theorem nodup_of_build (h : build repositories default? overrides = .ok registry) :
    registry.repositories.Nodup := by
  obtain ⟨hwell, rfl⟩ := build_eq_ok_iff.1 h
  exact hwell.distinct

/-! ## Looking up records -/

/-- A repository that has a record is configured. -/
theorem mem_of_recordFor {r : RepositoryId} {p : PolicyRecord}
    (h : registry.recordFor r = some p) : r ∈ registry.repositories := by
  unfold recordFor at h
  split at h
  · next hmem => exact hmem
  · cases h

/-- A repository is named by one override at most. -/
theorem exists_split (hunclaimed : (named overrides).Nodup) {o : PolicyOverride}
    (ho : o ∈ overrides) {r : RepositoryId} (hr : r ∈ o.repositories) :
    ∃ front back, overrides = front ++ o :: back ∧ r ∉ named front ∧ r ∉ named back := by
  obtain ⟨front, back, rfl⟩ := List.append_of_mem ho
  refine ⟨front, back, rfl, ?_, ?_⟩
  · rw [named_append, List.nodup_append] at hunclaimed
    intro hfront
    exact hunclaimed.2.2 r hfront r (mem_named.2 ⟨o, List.mem_cons_self, hr⟩) rfl
  · rw [named_append, List.nodup_append] at hunclaimed
    have htail : (o.repositories ++ named back).Nodup := hunclaimed.2.1
    intro hback
    exact (List.nodup_append.1 htail).2.2 r hr r hback rfl

theorem filter_named_eq_nil {os : List PolicyOverride} {r : RepositoryId} (h : r ∉ named os) :
    (os.filter fun o => r ∈ o.repositories) = [] := by
  simpa [List.filter_eq_nil_iff, mem_named] using h

theorem lookup_claims_eq_none {os : List PolicyOverride} {r : RepositoryId} (h : r ∉ named os) :
    (claims os).lookup r = none := by
  rw [← map_fst_claims, ← isSome_lookup_iff] at h
  exact Option.not_isSome_iff_eq_none.1 h

theorem lookup_entries (record : PolicyRecord) {names : List RepositoryId} {r : RepositoryId}
    (h : r ∈ names) : (names.map fun q => (q, record)).lookup r = some record := by
  induction names with
  | nil => cases h
  | cons q names ih =>
    rw [List.map_cons, List.lookup_cons]
    split
    · rfl
    · next hq => exact ih ((List.mem_cons.1 h).resolve_left (by simpa using hq))

theorem lookup_claims_of_mem (hunclaimed : (named overrides).Nodup) {o : PolicyOverride}
    (ho : o ∈ overrides) {r : RepositoryId} (hr : r ∈ o.repositories) :
    (claims overrides).lookup r = some o.record := by
  obtain ⟨front, back, rfl, hfront, -⟩ := exists_split hunclaimed ho hr
  have hcons : claims (o :: back) = (o.repositories.map fun q => (q, o.record)) ++ claims back :=
    List.flatMap_cons
  rw [claims_append, hcons, List.lookup_append, List.lookup_append, lookup_claims_eq_none hfront,
    lookup_entries o.record hr]
  rfl

/-- A repository that an override names has the record of that override. -/
theorem recordFor_of_named (hwell : WellFormed repositories overrides) {o : PolicyOverride}
    (ho : o ∈ overrides) {r : RepositoryId} (hr : r ∈ o.repositories) :
    (Registry.mk repositories default? (claims overrides)).recordFor r = some o.record := by
  unfold recordFor
  rw [if_pos (hwell.configured r (mem_named.2 ⟨o, ho, hr⟩)),
    lookup_claims_of_mem hwell.unclaimed ho hr]
  rfl

/-- A configured repository that no override names has the default record. -/
theorem recordFor_of_not_named {r : RepositoryId} (hr : r ∈ repositories)
    (hnamed : r ∉ named overrides) :
    (Registry.mk repositories default? (claims overrides)).recordFor r = default? := by
  unfold recordFor
  rw [if_pos hr, lookup_claims_eq_none hnamed]
  rfl

theorem recordFor_of_not_mem {r : RepositoryId} (hr : r ∉ registry.repositories) :
    registry.recordFor r = none :=
  if_neg hr

theorem WellFormed.perm {overrides' : List PolicyOverride}
    (hwell : WellFormed repositories overrides) (h : overrides'.Perm overrides) :
    WellFormed repositories overrides' where
  distinct := hwell.distinct
  nonempty o ho := hwell.nonempty o (h.subset ho)
  configured r hr := hwell.configured r ((h.flatMap_right _).subset hr)
  unclaimed := (h.flatMap_right _).nodup_iff.2 hwell.unclaimed

/-- No lookup depends on the order of the overrides. -/
theorem recordFor_perm {overrides' : List PolicyOverride}
    (hwell : WellFormed repositories overrides) (h : overrides'.Perm overrides) (r : RepositoryId) :
    (Registry.mk repositories default? (claims overrides')).recordFor r =
      (Registry.mk repositories default? (claims overrides)).recordFor r := by
  by_cases hr : r ∈ repositories
  · by_cases hnamed : r ∈ named overrides
    · obtain ⟨o, ho, hro⟩ := mem_named.1 hnamed
      rw [recordFor_of_named hwell ho hro, recordFor_of_named (hwell.perm h) (h.symm.subset ho) hro]
    · have hnamed' : r ∉ named overrides' := fun h' => hnamed ((h.flatMap_right _).subset h')
      rw [recordFor_of_not_named hr hnamed, recordFor_of_not_named hr hnamed']
  · exact (recordFor_of_not_mem hr).trans (recordFor_of_not_mem hr).symm

/-- The records are listed with the repositories that have one, in their order. -/
theorem map_fst_records (registry : Registry) :
    registry.records.map Prod.fst =
      registry.repositories.filter fun r => (registry.recordFor r).isSome := by
  rw [records]
  induction registry.repositories with
  | nil => rfl
  | cons r rest ih =>
    cases h : registry.recordFor r <;> simp [h, ih]

theorem mem_records_iff {r : RepositoryId} {p : PolicyRecord} :
    (r, p) ∈ registry.records ↔ registry.recordFor r = some p := by
  simp only [records, List.mem_filterMap, Option.map_eq_some_iff, Prod.mk.injEq]
  constructor
  · rintro ⟨q, -, p', h, rfl, rfl⟩
    exact h
  · intro h
    exact ⟨r, mem_of_recordFor h, p, h, rfl, rfl⟩

/-- What a registry answers that was built from these parts. -/
structure Resolves (repositories : List RepositoryId) (default? : Option PolicyRecord)
    (overrides : List PolicyOverride) (registry : Registry) : Prop where
  unconfigured : ∀ r ∉ repositories, registry.recordFor r = none
  /-- An override that names a repository is the only one that does, and settles its record. -/
  overridden : ∀ o ∈ overrides, ∀ r ∈ o.repositories,
    (overrides.filter fun o' => r ∈ o'.repositories) = [o] ∧
      registry.recordFor r = some o.record
  others : ∀ r ∈ repositories, (∀ o ∈ overrides, r ∉ o.repositories) →
    registry.recordFor r = default?
  listed : registry.records.map Prod.fst =
    repositories.filter fun r => (registry.recordFor r).isSome
  records : ∀ r p, (r, p) ∈ registry.records ↔ registry.recordFor r = some p
  reordered : ∀ overrides', overrides'.Perm overrides →
    ∃ registry', build repositories default? overrides' = .ok registry' ∧
      ∀ r, registry'.recordFor r = registry.recordFor r

/-- Building a registry gives one that resolves every repository exactly if the configuration is
well-formed, and reports the first violation otherwise. -/
theorem build_resolves_or_reports (repositories : List RepositoryId)
    (default? : Option PolicyRecord) (overrides : List PolicyOverride) :
    ((∃ registry, build repositories default? overrides = .ok registry) ↔
      WellFormed repositories overrides) ∧
    (∀ e, build repositories default? overrides = .error e ↔
      (violations repositories overrides).head? = some e) ∧
    ∀ registry, build repositories default? overrides = .ok registry →
      Resolves repositories default? overrides registry := by
  refine ⟨?_, fun e => build_eq_error_iff, fun registry hbuild => ?_⟩
  · constructor
    · rintro ⟨registry, hbuild⟩
      exact (build_eq_ok_iff.1 hbuild).1
    · intro hwell
      exact ⟨_, build_eq_ok_iff.2 ⟨hwell, rfl⟩⟩
  · obtain ⟨hwell, rfl⟩ := build_eq_ok_iff.1 hbuild
    exact {
      unconfigured := fun r hr => recordFor_of_not_mem hr
      overridden := by
        intro o ho r hr
        refine ⟨?_, recordFor_of_named hwell ho hr⟩
        obtain ⟨front, back, rfl, hfront, hback⟩ := exists_split hwell.unclaimed ho hr
        rw [List.filter_append, List.filter_cons_of_pos (by simpa using hr),
          filter_named_eq_nil hfront, filter_named_eq_nil hback]
        rfl
      others := fun r hr hnone => recordFor_of_not_named hr (by simpa [mem_named] using hnone)
      listed := map_fst_records _
      records := fun _ _ => mem_records_iff
      reordered := fun overrides' hperm =>
        ⟨_, build_eq_ok_iff.2 ⟨hwell.perm hperm, rfl⟩, recordFor_perm hwell hperm⟩ }

/-- Three repositories, two of them with records of their own. -/
def threeRepositories : List RepositoryId :=
  [⟨"istio", "istio"⟩, ⟨"istio", "api"⟩, ⟨"istio", "tools"⟩]

def twoOverrides : List PolicyOverride :=
  [⟨[⟨"istio", "tools"⟩], { closeLabel := "inactive" }⟩, ⟨[⟨"istio", "api"⟩], {}⟩]

theorem build_resolves_or_reports_two : ∃ registry,
    build threeRepositories none twoOverrides = .ok registry ∧
      Resolves threeRepositories none twoOverrides registry ∧
      registry.records.map Prod.fst = [⟨"istio", "api"⟩, ⟨"istio", "tools"⟩] :=
  ⟨_, rfl, (build_resolves_or_reports threeRepositories none twoOverrides).2.2 _ rfl, by decide⟩

/-- Of three things that are wrong, the first in reading order is reported. -/
example : build threeRepositories none
    [⟨[⟨"istio", "api"⟩], {}⟩, ⟨[⟨"istio", "tools"⟩, ⟨"istio", "api"⟩], {}⟩, ⟨[], {}⟩,
      ⟨[⟨"istio", "docs"⟩], {}⟩] = .error (.multipleRecords ⟨"istio", "api"⟩) := rfl

end Upkeep.Registry
