import Upkeep.Wire.Policy
/-!
# Reading a record field by field

Each field of a policy record has a type and a way to be read. Reading a table puts in the fields
that the table gives and leaves the others as they were (`readEntries_fields`), so that a record
that was read is the built-in record with the entries of the table over it
(`PolicyRecord.OverBuiltin`).
-/

namespace Upkeep

/-! ## Results -/

section Results

variable {ε ε' α β : Type}

theorem ok_bind (a : α) (f : α → Except ε β) : (Except.ok a >>= f) = f a := rfl

theorem exists_of_map_eq_ok {x : Except ε α} {f : α → β} {b : β} (h : x.map f = .ok b) :
    ∃ a, x = .ok a ∧ f a = b := by
  cases x with
  | error e => cases h
  | ok a => exact ⟨a, rfl, Except.ok.inj h⟩

theorem exists_of_bind_eq_ok {x : Except ε α} {f : α → Except ε β} {b : β}
    (h : (x >>= f) = .ok b) : ∃ a, x = .ok a ∧ f a = .ok b := by
  cases x with
  | error e => cases h
  | ok a => exact ⟨a, rfl, h⟩

theorem eq_ok_of_mapError {x : Except ε α} {f : ε → ε'} {a : α} (h : x.mapError f = .ok a) :
    x = .ok a := by
  cases x with
  | error e => cases h
  | ok b => rw [Except.ok.inj h]

end Results

/-! ## Fields -/

namespace PolicyKey

/-- What a field holds. -/
def Field : PolicyKey → Type
  | ignoreLabels => List String
  | realOldDelay => Option Delay
  | triageDelay | escalationDelay => Delay
  | pullRequestStaleDelay | featureRequestStaleDelay | issueStaleDelay => Delay
  | pullRequestCloseDelay | featureRequestCloseDelay | issueCloseDelay => Delay
  | featureRequestLabel | triageLabel | escalationLabel => String
  | staleLabel | staleproofLabel | closeLabel => String
  | staleComment | closeComment => String

/-- What a field is in a record. -/
def field (r : PolicyRecord) : (key : PolicyKey) → key.Field
  | featureRequestLabel => r.featureRequestLabel
  | ignoreLabels => r.ignoreLabels
  | realOldDelay => r.realOldDelay
  | triageDelay => r.triageDelay
  | triageLabel => r.triageLabel
  | escalationDelay => r.escalationDelay
  | escalationLabel => r.escalationLabel
  | pullRequestStaleDelay => r.pullRequestStaleDelay
  | featureRequestStaleDelay => r.featureRequestStaleDelay
  | issueStaleDelay => r.issueStaleDelay
  | staleLabel => r.staleLabel
  | staleComment => r.staleComment
  | staleproofLabel => r.staleproofLabel
  | pullRequestCloseDelay => r.pullRequestCloseDelay
  | featureRequestCloseDelay => r.featureRequestCloseDelay
  | issueCloseDelay => r.issueCloseDelay
  | closeLabel => r.closeLabel
  | closeComment => r.closeComment

/-- How a field is read. -/
def read : (key : PolicyKey) → Decoder key.Field
  | ignoreLabels => Decoder.list Decoder.text
  | realOldDelay => Decoder.nullable Decoder.delay
  | triageDelay | escalationDelay => Decoder.delay
  | pullRequestStaleDelay | featureRequestStaleDelay | issueStaleDelay => Decoder.delay
  | pullRequestCloseDelay | featureRequestCloseDelay | issueCloseDelay => Decoder.delay
  | featureRequestLabel | triageLabel | escalationLabel => Decoder.text
  | staleLabel | staleproofLabel | closeLabel => Decoder.text
  | staleComment | closeComment => Decoder.text

/-- Putting a value into a field reads it there, and leaves the other fields as they are. -/
theorem set_fields {r r' : PolicyRecord} {key : PolicyKey} {v : Value}
    (h : key.set r v = .ok r') :
    key.read v = .ok (key.field r') ∧ ∀ other, other ≠ key → other.field r' = other.field r := by
  cases key <;> obtain ⟨x, hx, rfl⟩ := exists_of_map_eq_ok h <;> refine ⟨hx, ?_⟩ <;>
    intro other hne <;> cases other <;> first | rfl | exact absurd rfl hne

/-- Two records with the same fields are the same. -/
theorem ext_fields {r r' : PolicyRecord} (h : ∀ key, field r key = field r' key) : r = r' := by
  have fields (key : PolicyKey) := h key
  cases r
  cases r'
  simp only [PolicyRecord.mk.injEq]
  exact ⟨fields featureRequestLabel, fields ignoreLabels, fields realOldDelay, fields triageDelay,
    fields triageLabel, fields escalationDelay, fields escalationLabel,
    fields pullRequestStaleDelay, fields featureRequestStaleDelay, fields issueStaleDelay,
    fields staleLabel, fields staleComment, fields staleproofLabel, fields pullRequestCloseDelay,
    fields featureRequestCloseDelay, fields issueCloseDelay, fields closeLabel,
    fields closeComment⟩

end PolicyKey

namespace PolicyRecord

open PolicyKey

/-- Every entry of a table that was read stands in its own field, and the fields of no entry are
as they were before. -/
theorem readEntries_fields {r r' : PolicyRecord} {seen : List PolicyKey}
    {entries : List (String × Value)} (h : readEntries r seen entries = .ok r') :
    (∀ name v, (name, v) ∈ entries →
      ∃ key, ofName? name = some key ∧ key ∉ seen ∧ key.read v = .ok (key.field r')) ∧
    ∀ key : PolicyKey, (∀ entry ∈ entries, ofName? entry.1 ≠ some key) →
      key.field r' = key.field r := by
  induction entries generalizing r seen with
  | nil =>
    cases h
    exact ⟨nofun, fun _ _ => rfl⟩
  | cons entry rest ih =>
    obtain ⟨name, v⟩ := entry
    unfold readEntries at h
    cases hname : ofName? name with
    | none => rw [hname] at h; cases h
    | some key =>
      simp only [hname] at h
      split at h
      · cases h
      · next hseen =>
        cases hset : key.set r v with
        | error e => rw [hset] at h; cases h
        | ok r₁ =>
          rw [hset] at h
          obtain ⟨hread, hothers⟩ := set_fields hset
          obtain ⟨hgiven, hkept⟩ := ih h
          -- No later entry is for the same field, since it counts as seen by then.
          have hlast : key.field r' = key.field r₁ := by
            apply hkept
            rintro ⟨name', v'⟩ hmem hsame
            obtain ⟨key', hkey', hnot, -⟩ := hgiven name' v' hmem
            rw [hsame] at hkey'
            obtain rfl := Option.some.inj hkey'
            exact hnot List.mem_cons_self
          constructor
          · intro name' v' hmem
            rcases List.mem_cons.1 hmem with hmem | hmem
            · cases hmem
              exact ⟨key, hname, hseen, hlast ▸ hread⟩
            · obtain ⟨key', hkey', hnot, hread'⟩ := hgiven name' v' hmem
              exact ⟨key', hkey', fun hs => hnot (List.mem_cons_of_mem _ hs), hread'⟩
          · intro other hnone
            have hne : other ≠ key := by
              rintro rfl
              exact hnone _ List.mem_cons_self hname
            rw [hkept other fun entry hmem => hnone entry (List.mem_cons_of_mem _ hmem),
              hothers other hne]

/-- The record is the built-in one with the entries of a table over it. The table has no entry for
anything else. -/
structure OverBuiltin (table : List (String × Value)) (r : PolicyRecord) : Prop where
  given : ∀ name v, (name, v) ∈ table →
    ∃ key, ofName? name = some key ∧ key.read v = .ok (key.field r)
  builtin : ∀ key : PolicyKey, (∀ entry ∈ table, ofName? entry.1 ≠ some key) →
    key.field r = key.field builtin

/-- A record that was read from a table. -/
theorem overBuiltin_of_ofValue {table : List (String × Value)} {r : PolicyRecord}
    (h : ofValue (.table table) = .ok r) : OverBuiltin table r where
  given name v hmem := by
    obtain ⟨key, hkey, -, hread⟩ := (readEntries_fields h).1 name v hmem
    exact ⟨key, hkey, hread⟩
  builtin := (readEntries_fields h).2

/-- A table makes one record at most. -/
theorem OverBuiltin.unique {table : List (String × Value)} {r r' : PolicyRecord}
    (h : OverBuiltin table r) (h' : OverBuiltin table r') : r = r' := by
  apply ext_fields
  intro key
  by_cases hkey : ∃ entry ∈ table, ofName? entry.1 = some key
  · obtain ⟨⟨name, v⟩, hmem, hname⟩ := hkey
    obtain ⟨k, hk, hread⟩ := h.given name v hmem
    obtain ⟨k', hk', hread'⟩ := h'.given name v hmem
    rw [hname] at hk hk'
    obtain rfl := Option.some.inj hk
    obtain rfl := Option.some.inj hk'
    exact Except.ok.inj (hread.symm.trans hread')
  · have hnone : ∀ entry ∈ table, ofName? entry.1 ≠ some key :=
      fun entry hmem hname => hkey ⟨entry, hmem, hname⟩
    rw [h.builtin key hnone, h'.builtin key hnone]

end PolicyRecord

end Upkeep
