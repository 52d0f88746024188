import Upkeep.Proofs.Wire.Record
import Upkeep.Wire.Decision
/-!
# The wire formats

Writing and reading are given separately for every kind of value that the manager exchanges. They
agree: actions, dispositions and decisions are read back from their values, and with the JSON text
of a value in between nothing is lost either (`wire_formats_round_trip`).
-/

namespace Upkeep

/-! ## Records -/

theorem FieldShape.check_required {α : Type} {name : String} {d : Decoder α} {v : Value} {a : α}
    (h : d v = .ok a) : (FieldShape.required name d).check v = .ok () := by
  show (d v).map _ = _
  rw [h]
  rfl

/-- Entries with different keys, each of them well formed, pass the check. -/
theorem FieldShape.checkEntries_eq_ok {shape : List FieldShape} (strict : Bool)
    {seen : List String} {entries : List (String × Value)}
    (hdistinct : (entries.map Prod.fst).Nodup) (hnew : ∀ entry ∈ entries, entry.1 ∉ seen)
    (hfields : ∀ entry ∈ entries, ∃ field, shape.find? (·.name == entry.1) = some field ∧
      field.check entry.2 = .ok ()) : checkEntries shape strict seen entries = .ok () := by
  induction entries generalizing seen with
  | nil => rfl
  | cons entry rest ih =>
    obtain ⟨hkey, hrest⟩ := List.nodup_cons.1 hdistinct
    obtain ⟨⟨field, hfind, hcheck⟩, hothers⟩ := List.forall_mem_cons.1 hfields
    obtain ⟨hseen, hunseen⟩ := List.forall_mem_cons.1 hnew
    rw [checkEntries, hfind]
    simp only [if_neg hseen, hcheck]
    refine ih hrest (fun entry' hmem => ?_) hothers
    rw [List.mem_cons, not_or]
    refine ⟨fun hsame => hkey ?_, hunseen entry' hmem⟩
    exact List.mem_map.2 ⟨entry', hmem, hsame⟩

theorem Value.record_table {shape : List FieldShape} {strict : Bool}
    {entries : List (String × Value)} (hdistinct : (entries.map Prod.fst).Nodup)
    (hfields : ∀ entry ∈ entries, ∃ field, shape.find? (·.name == entry.1) = some field ∧
      field.check entry.2 = .ok ()) : (Value.table entries).record shape strict = .ok entries := by
  have hcheck := FieldShape.checkEntries_eq_ok strict hdistinct (fun _ _ => List.not_mem_nil)
    hfields
  rw [Value.record, hcheck]
  rfl

theorem Fields.required_cons {α : Type} {d : Decoder α} {name key : String} {v : Value}
    {rest : List (String × Value)} : Fields.required ((key, v) :: rest) name d =
      if name = key then d v else Fields.required rest name d := by
  unfold Fields.required
  by_cases h : name = key
  · simp [h]
  · rw [if_neg h, List.lookup_cons, beq_false_of_ne h]

/-- A tag in front of a table is split off. -/
theorem Value.tagged_table {tag name : String} {entries : List (String × Value)}
    (h : ∀ entry ∈ entries, entry.1 ≠ tag) :
    (Value.table ((tag, .text name) :: entries)).tagged tag = .ok (name, .table entries) := by
  have hnone : entries.filter (·.1 == tag) = [] := by
    rw [List.filter_eq_nil_iff]
    intro entry hmem
    simpa using h entry hmem
  have hall : entries.filter (·.1 != tag) = entries := by
    rw [List.filter_eq_self]
    intro entry hmem
    simpa using h entry hmem
  simp [Value.tagged, hnone, hall]

/-! ## Actions and dispositions -/

theorem CommentKind.ofValue_text (kind : CommentKind) : ofValue (.text kind.text) = .ok kind := by
  cases kind <;> rfl

namespace Action

theorem labelOf_table (label : String) : labelOf (.table [("label", .text label)]) = .ok label := by
  have hlabel : Decoder.text (.text label) = .ok label := rfl
  rw [labelOf, Value.record_table]
  · rfl
  · simp
  · exact List.forall_mem_singleton.2 ⟨_, rfl, FieldShape.check_required hlabel⟩

theorem commentOf_table (kind : CommentKind) (body : String) :
    commentOf (.table [("kind", .text kind.text), ("body", .text body)]) = .ok (kind, body) := by
  have hkind := CommentKind.ofValue_text kind
  have hbody : Decoder.text (.text body) = .ok body := rfl
  rw [commentOf, Value.record_table]
  · simp [ok_bind, Fields.required_cons, hkind, hbody]
  · simp
  · simp only [List.forall_mem_cons]
    exact ⟨⟨_, rfl, FieldShape.check_required hkind⟩, ⟨_, rfl, FieldShape.check_required hbody⟩,
      nofun⟩

theorem ofValue_toValue (a : Action) : ofValue a.toValue = .ok a := by
  cases a with
  | addLabel label | removeLabel label =>
    rw [toValue, ofValue, Value.tagged_table (by simp), ok_bind]
    simp only [labelOf_table]
    rfl
  | postComment kind body =>
    rw [toValue, ofValue, Value.tagged_table (by simp), ok_bind]
    simp only [commentOf_table]
    rfl
  | removeComment | close => rfl

theorem fits_toValue (n : Nat) (a : Action) : Json.Fits (n + 1) a.toValue := by
  cases a <;> refine .table _ ?_ <;> simp [Json.Fits.text]

end Action

namespace Disposition

theorem ofValue_toValue (d : Disposition) : ofValue d.toValue = .ok d := by
  cases d with
  | ignored label =>
    rw [toValue, ofValue, Value.tagged_table (by simp), ok_bind]
    exact congrArg (Except.map ignored) (Action.labelOf_table label)
  | _ => rfl

theorem fits_toValue (n : Nat) (d : Disposition) : Json.Fits (n + 1) d.toValue := by
  cases d <;> refine .table _ ?_ <;> simp [Json.Fits.text]

end Disposition

/-! ## Decisions -/

namespace Stats

/-- The counts are numbers of 32 bits. -/
structure FitsWords (s : Stats) : Prop where
  markedStale : s.markedStale < 0x100000000
  closed : s.closed < 0x100000000
  markedNeedsTriage : s.markedNeedsTriage < 0x100000000
  markedNeedsEscalation : s.markedNeedsEscalation < 0x100000000

theorem nat32_ofNat {n : Nat} (h : n < 0x100000000) : Decoder.nat32 (.ofNat n) = .ok n := by
  unfold Decoder.nat32 Decoder.natBelow Value.ofNat
  simp only [Int.toNat_natCast]
  rw [if_pos ⟨Int.natCast_nonneg n, h⟩]

theorem fits_ofNat {n : Nat} (h : n < 0x100000000) (depth : Nat) : Json.Fits depth (.ofNat n) := by
  refine .int n ?_
  simp only [Value.isWordInt, Bool.and_eq_true, decide_eq_true_iff]
  omega

variable {s : Stats}

theorem ofValue_toValue (h : s.FitsWords) : ofValue s.toValue = .ok s := by
  have hstale := nat32_ofNat h.markedStale
  have hclosed := nat32_ofNat h.closed
  have htriage := nat32_ofNat h.markedNeedsTriage
  have hescalation := nat32_ofNat h.markedNeedsEscalation
  rw [ofValue, toValue, Value.record_table]
  · simp [ok_bind, Fields.required_cons, hstale, hclosed, htriage, hescalation]
  · simp
  · simp only [List.forall_mem_cons]
    exact ⟨⟨_, rfl, FieldShape.check_required hstale⟩, ⟨_, rfl, FieldShape.check_required hclosed⟩,
      ⟨_, rfl, FieldShape.check_required htriage⟩,
      ⟨_, rfl, FieldShape.check_required hescalation⟩, nofun⟩

theorem fits_toValue (h : s.FitsWords) (n : Nat) : Json.Fits (n + 1) s.toValue := by
  refine .table _ ?_
  simp only [List.forall_mem_cons]
  exact ⟨fits_ofNat h.markedStale n, fits_ofNat h.closed n, fits_ofNat h.markedNeedsTriage n,
    fits_ofNat h.markedNeedsEscalation n, nofun⟩

end Stats

namespace Decision

variable {d : Decision}

theorem ofValue_toValue (h : d.stats.FitsWords) : ofValue d.toValue = .ok d := by
  have hactions : Decoder.list Action.ofValue (.list (d.actions.map Action.toValue)) =
      .ok d.actions := Decoder.list_map fun a _ => a.ofValue_toValue
  have hstats := Stats.ofValue_toValue h
  have hdisposition := d.disposition.ofValue_toValue
  rw [ofValue, toValue, Value.record_table]
  · simp [ok_bind, Fields.required_cons, hactions, hstats, hdisposition]
  · simp
  · simp only [List.forall_mem_cons]
    exact ⟨⟨_, rfl, FieldShape.check_required hactions⟩,
      ⟨_, rfl, FieldShape.check_required hstats⟩,
      ⟨_, rfl, FieldShape.check_required hdisposition⟩, nofun⟩

theorem fits_toValue (h : d.stats.FitsWords) (n : Nat) : Json.Fits (n + 3) d.toValue := by
  refine .table _ ?_
  simp only [List.forall_mem_cons]
  refine ⟨.list _ fun v hv => ?_, Stats.fits_toValue h (n + 1),
    d.disposition.fits_toValue (n + 1), nofun⟩
  obtain ⟨a, -, rfl⟩ := List.mem_map.1 hv
  exact a.fits_toValue n

/-- A decision is read back from its text. -/
theorem read_back (h : d.stats.FitsWords) :
    (Json.parse? (Json.print d.toValue)).map ofValue = some (.ok d) := by
  rw [Json.parse?_print (fits_toValue h 124), Option.map_some, ofValue_toValue h]

end Decision

/-! ## Nothing is lost -/

/-- What can be read back from its value has a text of its own. -/
theorem print_toValue_injective {α : Type} {toValue : α → Value} {ofValue : Decoder α}
    (hread : ∀ a, ofValue (toValue a) = .ok a)
    (hfits : ∀ a, Json.Fits Json.nestingLimit (toValue a)) :
    Function.Injective fun a => Json.print (toValue a) := by
  intro a b hsame
  have hvalue : toValue a = toValue b := Json.print_injective (hfits a) (hfits b) hsame
  have hboth := hread a
  rw [hvalue, hread b] at hboth
  exact (Except.ok.inj hboth).symm

/-- Records with delays of at most a hundred years and decisions with counts of 32 bits are read
back from their texts. A record may leave out fields that are as in the built-in record, give the
others in any order, and have the older name of the staleproof label; entries that are for no field
and both names of that label together are refused. No two actions and no two dispositions have the
same text. -/
theorem wire_formats_round_trip :
    (∀ r : PolicyRecord, (∀ d ∈ r.delays, d.seconds ≤ Delay.maxSeconds) →
      (Json.parse? (Json.print r.toValue)).map PolicyRecord.ofValue = some (.ok r) ∧
      ∀ keys : List PolicyKey, (∀ key ∈ keys, key.get r = key.get PolicyRecord.builtin) →
        ∀ table, table.Perm (PolicyRecord.without keys r.entries) →
          (Json.parse? (Json.print (.table table))).map PolicyRecord.ofValue = some (.ok r) ∧
          (Json.parse? (Json.print (.table (PolicyRecord.withOlderName table)))).map
            PolicyRecord.ofValue = some (.ok r)) ∧
    (∀ table, (∃ entry ∈ table, ∀ key : PolicyKey, ¬ key.IsNamed entry.1) →
      ∃ e, PolicyRecord.ofValue (.table table) = .error e) ∧
    (∀ table v w, ("staleproof_label", v) ∈ table → ("cant_be_stale_label", w) ∈ table →
      ∃ e, PolicyRecord.ofValue (.table table) = .error e) ∧
    (∀ d : Decision, d.stats.FitsWords →
      (Json.parse? (Json.print d.toValue)).map Decision.ofValue = some (.ok d)) ∧
    (Function.Injective fun a : Action => Json.print a.toValue) ∧
    Function.Injective fun d : Disposition => Json.print d.toValue := by
  refine ⟨fun r hdelays => ⟨?_, ?_⟩, ?_, ?_, fun d hd => Decision.read_back hd, ?_, ?_⟩
  · exact (PolicyRecord.writes_entries r).read_back hdelays
  · intro keys hkeys table hperm
    have hwrites : PolicyRecord.Writes r table :=
      ((PolicyRecord.writes_entries r).without hkeys).perm hperm
    exact ⟨hwrites.read_back hdelays, hwrites.withOlderName.read_back hdelays⟩
  · rintro table ⟨entry, hmem, hunknown⟩
    exact PolicyRecord.ofValue_of_unknown hmem hunknown
  · intro table v w hname halias
    exact PolicyRecord.ofValue_of_same hname halias (by simp)
      (.inl rfl : PolicyKey.IsNamed .staleproofLabel _) (.inr ⟨rfl, rfl⟩)
  · exact print_toValue_injective Action.ofValue_toValue (Action.fits_toValue 126)
  · exact print_toValue_injective Disposition.ofValue_toValue (Disposition.fits_toValue 126)

/-- A record that changes three fields of the built-in one. -/
def keepAliveRecord : PolicyRecord :=
  { staleproofLabel := "keep \"alive\"", ignoreLabels := ["do-not-touch", ""],
    realOldDelay := some (.days 400) }

theorem wire_formats_round_trip_keepAlive :
    (Json.parse? (Json.print (.table (PolicyRecord.withOlderName
      (PolicyRecord.without [.triageLabel, .issueCloseDelay] keepAliveRecord.entries))))).map
        PolicyRecord.ofValue = some (.ok keepAliveRecord) ∧
    (∃ e, PolicyRecord.ofValue (.table [("issue_close_dealy", .text "5d")]) = .error e) ∧
    (∃ e, PolicyRecord.ofValue (.table [("cant_be_stale_label", .text "a"),
      ("staleproof_label", .text "b")]) = .error e) ∧
    (Json.parse? (Json.print (Decision.mk [.postComment .closing "a\nb", .close] ⟨0, 1, 0, 0⟩
      (.ignored "wip")).toValue)).map Decision.ofValue =
        some (.ok ⟨[.postComment .closing "a\nb", .close], ⟨0, 1, 0, 0⟩, .ignored "wip"⟩) := by
  obtain ⟨hrecords, hunknown, hsame, hdecisions, -, -⟩ := wire_formats_round_trip
  refine ⟨?_, ?_, ?_, ?_⟩
  · have hdefaults : ∀ key ∈ [PolicyKey.triageLabel, .issueCloseDelay],
        key.get keepAliveRecord = key.get PolicyRecord.builtin := by
      simp [PolicyKey.get, keepAliveRecord, PolicyRecord.builtin]
    exact ((hrecords keepAliveRecord (by decide)).2 _ hdefaults _ (.refl _)).2
  · refine hunknown _ ⟨_, List.mem_singleton_self _, fun key => ?_⟩
    rw [← PolicyKey.ofName?_eq_some_iff]
    cases key <;> decide
  · exact hsame _ (.text "b") (.text "a") (by simp) (by simp)
  · exact hdecisions _ ⟨by decide, by decide, by decide, by decide⟩

end Upkeep
