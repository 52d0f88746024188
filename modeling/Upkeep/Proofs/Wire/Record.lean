import Upkeep.Proofs.Json.RoundTrip
import Upkeep.Proofs.Policy.Fields
import Upkeep.Proofs.Time.WrittenDelay
import Mathlib.Data.List.Nodup
/-!
# Written policy records

A table is read as a record exactly if no two of its entries are for the same field and the record
is the built-in one with the entries of the table over it (`PolicyRecord.ofValue_eq_ok_iff`). So a
record is read back from any table that writes it (`PolicyRecord.Writes`): fields that are as in the
built-in record may be left out, the others may come in any order, and the staleproof label may have
its older name.
-/

namespace Upkeep

/-! ## Reading single values -/

theorem Decoder.list_map {α : Type} {d : Decoder α} {f : α → Value} {as : List α}
    (h : ∀ a ∈ as, d (f a) = .ok a) : Decoder.list d (.list (as.map f)) = .ok as := by
  show Decoder.items d (as.map f) = .ok as
  induction as with
  | nil => rfl
  | cons a as ih =>
    obtain ⟨ha, has⟩ := List.forall_mem_cons.1 h
    rw [List.map_cons, Decoder.items, ha, ih has]
    rfl

/-- A written delay of a hundred years or less is read back. -/
theorem Decoder.delay_text {d : Delay} (h : d.seconds ≤ Delay.maxSeconds) :
    Decoder.delay (.text d.text) = .ok d := by
  have hparse : Delay.parse d.text = .ok d := (Delay.parse_text d).trans (if_pos h)
  rw [Decoder.delay, hparse]
  rfl

/-! ## Fields -/

/-- The delays of a record. -/
def PolicyRecord.delays (r : PolicyRecord) : List Delay :=
  r.realOldDelay.toList ++ [r.triageDelay, r.escalationDelay, r.pullRequestStaleDelay,
    r.featureRequestStaleDelay, r.issueStaleDelay, r.pullRequestCloseDelay,
    r.featureRequestCloseDelay, r.issueCloseDelay]

namespace PolicyKey

/-- A field can be given under its own name, and the staleproof label under its older one. -/
def IsNamed (key : PolicyKey) (name : String) : Prop :=
  name = key.name ∨ key = staleproofLabel ∧ name = staleproofAlias

theorem mem_all (key : PolicyKey) : key ∈ all := by
  cases key <;> decide

theorem ofName?_name (key : PolicyKey) : ofName? key.name = some key := by
  cases key <;> decide

theorem ofName?_eq_some_iff {name : String} {key : PolicyKey} :
    ofName? name = some key ↔ key.IsNamed name := by
  constructor
  · intro h
    unfold ofName? at h
    split at h
    · next halias => exact .inr ⟨(Option.some.inj h).symm, halias⟩
    · have hname := List.find?_some h
      exact .inl (eq_of_beq hname).symm
  · rintro (rfl | ⟨rfl, rfl⟩)
    · exact ofName?_name key
    · exact if_pos rfl

variable {r : PolicyRecord}

/-- The written value of a field is read as the field. -/
theorem read_get (h : ∀ d ∈ r.delays, d.seconds ≤ Delay.maxSeconds) (key : PolicyKey) :
    key.read (key.get r) = .ok (key.field r) := by
  have hdelay (d : Delay) (hd : d ∈ r.delays) : Decoder.delay (.text d.text) = .ok d :=
    Decoder.delay_text (h d hd)
  cases key with
  | ignoreLabels => exact Decoder.list_map fun _ _ => rfl
  | realOldDelay =>
    have hold (d : Delay) (hd : r.realOldDelay = some d) : Decoder.delay (.text d.text) = .ok d :=
      hdelay d (by simp [PolicyRecord.delays, hd])
    show Decoder.nullable Decoder.delay (.ofText? (r.realOldDelay.map Delay.text)) =
      .ok r.realOldDelay
    cases hr : r.realOldDelay with
    | none => rfl
    | some d =>
      show (Decoder.delay (.text d.text)).map some = _
      rw [hold d hr]
      rfl
  | triageDelay | escalationDelay | pullRequestStaleDelay | featureRequestStaleDelay
  | issueStaleDelay | pullRequestCloseDelay | featureRequestCloseDelay | issueCloseDelay =>
    exact hdelay _ (by simp [PolicyRecord.delays])
  | featureRequestLabel | triageLabel | escalationLabel | staleLabel | staleComment
  | staleproofLabel | closeLabel | closeComment => rfl

/-- A value that can be read can be put into its field. -/
theorem exists_set {key : PolicyKey} {v : Value} {x : key.Field} (h : key.read v = .ok x)
    (r : PolicyRecord) : ∃ r', key.set r v = .ok r' := by
  cases key <;> exact ⟨_, congrArg (Except.map _) h⟩

theorem fits_get (n : Nat) (r : PolicyRecord) (key : PolicyKey) :
    Json.Fits (n + 1) (key.get r) := by
  cases key with
  | ignoreLabels =>
    refine .list _ fun v hv => ?_
    obtain ⟨label, -, rfl⟩ := List.mem_map.1 hv
    exact .text label
  | realOldDelay =>
    show Json.Fits (n + 1) (.ofText? (r.realOldDelay.map Delay.text))
    cases r.realOldDelay with
    | none => exact .null
    | some d => exact .text d.text
  | _ => exact .text _

/-- The name of an entry with the older name of the staleproof label for the present one. -/
def olderName (name : String) : String :=
  if name = staleproofLabel.name then staleproofAlias else name

theorem ofName?_olderName (name : String) : ofName? (olderName name) = ofName? name := by
  unfold olderName
  split
  · next h =>
    subst h
    rfl
  · rfl

end PolicyKey

/-! ## Tables -/

namespace PolicyRecord

open PolicyKey

variable {r r' : PolicyRecord} {table : List (String × Value)}

/-- The fields of the entries of a table, as far as they have names of fields. -/
def fieldsOf (table : List (String × Value)) : List (Option PolicyKey) :=
  table.map fun entry => ofName? entry.1

/-- A table is read if every entry is for a field of its own and its value can be read. -/
theorem exists_readEntries {seen : List PolicyKey} (hdistinct : (fieldsOf table).Nodup)
    (hgiven : ∀ entry ∈ table, ∃ key, ofName? entry.1 = some key ∧ key ∉ seen ∧
      ∃ x, key.read entry.2 = .ok x) : ∃ r', readEntries r seen table = .ok r' := by
  -- Fields that were given before count as seen, and none of them comes again.
  induction table generalizing r seen with
  | nil => exact ⟨r, rfl⟩
  | cons entry rest ih =>
    obtain ⟨hnew, hrest⟩ := List.nodup_cons.1 hdistinct
    obtain ⟨⟨key, hkey, hseen, x, hread⟩, hothers⟩ := List.forall_mem_cons.1 hgiven
    obtain ⟨r₁, hset⟩ := exists_set hread r
    simp only [readEntries, hkey, if_neg hseen, hset]
    refine ih hrest fun entry' hmem => ?_
    obtain ⟨key', hkey', hseen', hread'⟩ := hothers entry' hmem
    refine ⟨key', hkey', ?_, hread'⟩
    rw [List.mem_cons, not_or]
    refine ⟨?_, hseen'⟩
    rintro rfl
    exact hnew (List.mem_map.2 ⟨entry', hmem, hkey'.trans hkey.symm⟩)

/-- No two entries of a table that was read are for one field. -/
theorem nodup_of_readEntries {seen : List PolicyKey} (h : readEntries r seen table = .ok r') :
    (fieldsOf table).Nodup := by
  induction table generalizing r seen with
  | nil => exact List.nodup_nil
  | cons entry rest ih =>
    obtain ⟨name, v⟩ := entry
    unfold readEntries at h
    split at h
    · cases h
    · next key hname =>
      split at h
      · cases h
      split at h
      · cases h
      refine List.nodup_cons.2 ⟨?_, ih h⟩
      intro hmem
      obtain ⟨⟨name', v'⟩, hmem', hsame⟩ := List.mem_map.1 hmem
      obtain ⟨key', hkey', hnot, -⟩ := (readEntries_fields h).1 name' v' hmem'
      obtain rfl : key' = key := Option.some.inj (hkey'.symm.trans (hsame.trans hname))
      exact hnot List.mem_cons_self

/-- A table is read as the built-in record with its entries over it, as long as no two entries are
for one field. -/
theorem ofValue_eq_ok_iff :
    ofValue (.table table) = .ok r ↔ OverBuiltin table r ∧ (fieldsOf table).Nodup := by
  constructor
  · intro h
    exact ⟨overBuiltin_of_ofValue h, nodup_of_readEntries h⟩
  · rintro ⟨hover, hdistinct⟩
    have hgiven (entry) (hmem : entry ∈ table) : ∃ key, ofName? entry.1 = some key ∧ key ∉ [] ∧
        ∃ x, key.read entry.2 = .ok x := by
      obtain ⟨key, hkey, hread⟩ := hover.given entry.1 entry.2 hmem
      exact ⟨key, hkey, List.not_mem_nil, _, hread⟩
    obtain ⟨r', hr'⟩ := exists_readEntries (r := PolicyRecord.builtin) hdistinct hgiven
    -- The entries and the built-in record leave no choice for any field.
    obtain rfl : r' = r := (overBuiltin_of_ofValue hr').unique hover
    exact hr'

/-- A table with an entry that is for no field is refused. -/
theorem ofValue_of_unknown {entry : String × Value} (hmem : entry ∈ table)
    (hunknown : ∀ key : PolicyKey, ¬ key.IsNamed entry.1) :
    ∃ e, ofValue (.table table) = .error e := by
  cases h : ofValue (.table table) with
  | error e => exact ⟨e, rfl⟩
  | ok r =>
    obtain ⟨key, hkey, -⟩ := (overBuiltin_of_ofValue h).given entry.1 entry.2 hmem
    exact absurd (ofName?_eq_some_iff.1 hkey) (hunknown key)

/-- A table with two entries for one field is refused, also when their names differ. -/
theorem ofValue_of_same {first second : String × Value} {key : PolicyKey} (hfirst : first ∈ table)
    (hsecond : second ∈ table) (hne : first.1 ≠ second.1) (hfirstName : key.IsNamed first.1)
    (hsecondName : key.IsNamed second.1) : ∃ e, ofValue (.table table) = .error e := by
  cases h : ofValue (.table table) with
  | error e => exact ⟨e, rfl⟩
  | ok r =>
    have hdistinct := (ofValue_eq_ok_iff.1 h).2
    have hsame : ofName? first.1 = ofName? second.1 := by
      rw [ofName?_eq_some_iff.2 hfirstName, ofName?_eq_some_iff.2 hsecondName]
    have heq : first = second := List.inj_on_of_nodup_map hdistinct hfirst hsecond hsame
    exact absurd (congrArg Prod.fst heq) hne

/-! ## Tables that write a record -/

/-- A table gives fields of a record, each once and under one of its names. Fields that it leaves
out have the values of the built-in record. -/
structure Writes (r : PolicyRecord) (table : List (String × Value)) : Prop where
  distinct : (fieldsOf table).Nodup
  given : ∀ entry ∈ table, ∃ key : PolicyKey, key.IsNamed entry.1 ∧ entry.2 = key.get r
  left : ∀ key : PolicyKey, (∀ entry ∈ table, ¬ key.IsNamed entry.1) →
    key.get r = key.get PolicyRecord.builtin

theorem delays_builtin : ∀ d ∈ PolicyRecord.builtin.delays, d.seconds ≤ Delay.maxSeconds := by
  decide

theorem Writes.ofValue_eq (h : Writes r table)
    (hdelays : ∀ d ∈ r.delays, d.seconds ≤ Delay.maxSeconds) :
    ofValue (.table table) = .ok r := by
  refine ofValue_eq_ok_iff.2 ⟨⟨fun name v hmem => ?_, fun key hnone => ?_⟩, h.distinct⟩
  · obtain ⟨key, hname, hv⟩ := h.given (name, v) hmem
    obtain rfl : v = key.get r := hv
    exact ⟨key, ofName?_eq_some_iff.2 hname, read_get hdelays key⟩
  · have hget := h.left key fun entry hmem hname =>
      hnone entry hmem (ofName?_eq_some_iff.2 hname)
    have hread := read_get hdelays key
    rw [hget, read_get delays_builtin] at hread
    exact (Except.ok.inj hread).symm

theorem Writes.fits (h : Writes r table) (n : Nat) : Json.Fits (n + 2) (.table table) := by
  refine .table table fun entry hmem => ?_
  obtain ⟨key, -, hv⟩ := h.given entry hmem
  rw [hv]
  exact fits_get n r key

/-- The text of a table that writes a record is read as the record. -/
theorem Writes.read_back (h : Writes r table)
    (hdelays : ∀ d ∈ r.delays, d.seconds ≤ Delay.maxSeconds) :
    (Json.parse? (Json.print (.table table))).map ofValue = some (.ok r) := by
  rw [Json.parse?_print (h.fits 125), Option.map_some, h.ofValue_eq hdelays]

theorem Writes.perm {table' : List (String × Value)} (h : Writes r table)
    (hperm : table'.Perm table) : Writes r table' where
  distinct := (hperm.map _).nodup_iff.2 h.distinct
  given entry hmem := h.given entry (hperm.mem_iff.1 hmem)
  left key hnone := h.left key fun entry hmem => hnone entry (hperm.mem_iff.2 hmem)

theorem writes_entries (r : PolicyRecord) : Writes r r.entries where
  distinct := by
    have hfields : fieldsOf r.entries = PolicyKey.all.map some := by
      rw [fieldsOf, entries, List.map_map]
      exact List.map_congr_left fun key _ => ofName?_name key
    rw [hfields]
    decide
  given entry hmem := by
    obtain ⟨key, -, rfl⟩ := List.mem_map.1 hmem
    exact ⟨key, .inl rfl, rfl⟩
  left key hnone := absurd (.inl rfl) (hnone _ (List.mem_map.2 ⟨key, mem_all key, rfl⟩))

/-- A table without the entries for some fields. -/
def without (keys : List PolicyKey) (table : List (String × Value)) : List (String × Value) :=
  table.filter fun entry => ∀ key ∈ keys, entry.1 ≠ key.name

theorem Writes.without {keys : List PolicyKey} (h : Writes r table)
    (hkeys : ∀ key ∈ keys, key.get r = key.get PolicyRecord.builtin) :
    Writes r (without keys table) where
  distinct := (List.filter_sublist.map _).nodup h.distinct
  given entry hmem := h.given entry (List.mem_of_mem_filter hmem)
  left key hnone := by
    by_cases hkey : key ∈ keys
    · exact hkeys key hkey
    · refine h.left key fun entry hmem hname => ?_
      refine hnone entry (List.mem_filter.2 ⟨hmem, ?_⟩) hname
      rw [decide_eq_true_iff]
      intro key' hkey' hsame
      have hfield := ofName?_eq_some_iff.2 hname
      rw [hsame, ofName?_name] at hfield
      exact hkey (Option.some.inj hfield ▸ hkey')

/-- A table with the staleproof label under its older name. -/
def withOlderName (table : List (String × Value)) : List (String × Value) :=
  table.map fun entry => (olderName entry.1, entry.2)

theorem Writes.withOlderName (h : Writes r table) : Writes r (withOlderName table) where
  distinct := by
    have hfields : fieldsOf (PolicyRecord.withOlderName table) = fieldsOf table := by
      rw [fieldsOf, PolicyRecord.withOlderName, List.map_map]
      exact List.map_congr_left fun entry _ => ofName?_olderName entry.1
    rw [hfields]
    exact h.distinct
  given entry hmem := by
    obtain ⟨entry', hmem', rfl⟩ := List.mem_map.1 hmem
    obtain ⟨key, hname, hv⟩ := h.given entry' hmem'
    refine ⟨key, ?_, hv⟩
    rw [← ofName?_eq_some_iff, ofName?_olderName]
    exact ofName?_eq_some_iff.2 hname
  left key hnone := by
    refine h.left key fun entry hmem hname => ?_
    refine hnone _ (List.mem_map.2 ⟨entry, hmem, rfl⟩) ?_
    rw [← ofName?_eq_some_iff, ofName?_olderName]
    exact ofName?_eq_some_iff.2 hname

end PolicyRecord

end Upkeep
