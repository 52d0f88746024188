import Upkeep.Proofs.Decision.Form
import Upkeep.Proofs.Policy.Fields
import Upkeep.Proofs.Reference
import Upkeep.Proofs.Time.WrittenDelay
import Upkeep.Wire.Issue
import Upkeep.ZenHub
/-!
# What decoding guarantees

Delays and repositories are decoded by the readers of their texts and keep what these guarantee. A
column of the board is decoded by its name alone, so that a blank one comes through, which neither
its constructor nor the board gives (`decoded_invariants`). Such a column counts as one that
classifies its issues, where none at all would ask for triage.
-/

namespace Upkeep

/-! ## Values -/

/-- What the two names of a repository are: trimmed, not empty and without a slash. -/
structure IsNamePart (s : String) : Prop where
  nonempty : s ≠ ""
  trimmed : trim s = s
  noSlash : '/' ∉ s.toList

theorem Delay.seconds_le_of_decoded {v : Value} {d : Delay} (h : Decoder.delay v = .ok d) :
    d.seconds ≤ maxSeconds := by
  cases v with
  | text s => exact seconds_le_of_parse (eq_ok_of_mapError h)
  | _ => cases h

namespace RepositoryId

theorem Denotes.isNamePart {cs : List Char} {r : RepositoryId} (h : Denotes cs r) :
    IsNamePart r.org ∧ IsNamePart r.name := by
  obtain ⟨org, name, -, horg, hname, htrim, htrim', hne, hne'⟩ := h
  have htrimmed {s : String} {cs : List Char} (hs : Trims cs s.toList) : trim s = s := by
    rw [trim, hs.again.trimChars_eq, String.ofList_toList]
  exact ⟨⟨hne, htrimmed htrim, fun hmem => horg (htrim.subset hmem)⟩,
    ⟨hne', htrimmed htrim', fun hmem => hname (htrim'.subset hmem)⟩⟩

theorem isNamePart_of_decoded {v : Value} {r : RepositoryId}
    (h : Decoder.repositoryId v = .ok r) : IsNamePart r.org ∧ IsNamePart r.name := by
  cases v with
  | text s => exact (parse_eq_ok_iff.1 (eq_ok_of_mapError h)).isNamePart
  | _ => cases h

end RepositoryId

namespace Pipeline

/-- A column whose name is blank stands for no column. -/
def IsBlank (p : Pipeline) : Prop := isBlankText p.name = true

instance (p : Pipeline) : Decidable p.IsBlank := inferInstanceAs (Decidable (_ = true))

/-- A name is decoded as it is. -/
theorem ofValue_eq_ok_iff {v : Value} {p : Pipeline} : ofValue v = .ok p ↔ v = .text p.name := by
  constructor
  · intro h
    cases v with
    | text s =>
      cases h
      rfl
    | _ => cases h
  · rintro rfl
    rfl

theorem not_isBlank_of_ofName? {name : String} {p : Pipeline} (h : ofName? name = some p) :
    ¬ p.IsBlank := by
  unfold ofName? at h
  split at h
  · cases h
  · next hblank =>
    cases h
    exact hblank

theorem not_isBlank_of_ofResponse {response : Http.Response} {now : Instant} {p : Pipeline}
    (h : ZenHub.Client.ofResponse response now = .ok (some p)) : ¬ p.IsBlank := by
  unfold ZenHub.Client.ofResponse at h
  split at h
  · cases h
  split at h
  · cases h
  split at h
  · cases h
  · obtain ⟨name?, -, hname⟩ := exists_of_map_eq_ok h
    obtain ⟨name, -, hof⟩ := Option.bind_eq_some_iff.1 hname
    exact not_isBlank_of_ofName? hof

theorem isUntriaged_of_isBlank {p : Pipeline} (h : p.IsBlank) : p.isUntriaged = false := by
  rw [isUntriaged, beq_eq_false_iff_ne]
  intro hname
  rw [IsBlank, hname] at h
  exact absurd h (by decide)

theorem isHighPriority_of_isBlank {p : Pipeline} (h : p.IsBlank) : p.isHighPriority = false := by
  have hnone : ∀ name ∈ highPriority, isBlankText name = false := by decide
  rw [isHighPriority, ← Bool.not_eq_true, List.contains_iff_mem]
  intro hmem
  rw [IsBlank, hnone p.name hmem] at h
  cases h

end Pipeline

/-! ## Signals -/

namespace Signals

/-- No member has commented on the item or touched it. -/
def IsUntouched (s : Signals) : Prop := s.memberComment = none ∧ s.memberActivity = none

instance (s : Signals) : Decidable s.IsUntouched := inferInstanceAs (Decidable (_ ∧ _))

theorem needsTriage_iff {s : Signals} : s.needsTriage = true ↔
    (∀ p ∈ s.pipeline, p.name = Pipeline.newIssues) ∨ s.IsUntouched := by
  rw [needsTriage, Bool.or_eq_true, Bool.and_eq_true, Option.isNone_iff_eq_none,
    Option.isNone_iff_eq_none]
  cases s.pipeline <;> simp [Pipeline.isUntriaged, IsUntouched]

/-- The same signals with the item in another column, or in none. -/
def inColumn (s : Signals) (pipeline : Option Pipeline) : Signals := { s with pipeline }

theorem needsTriage_inColumn_none (s : Signals) : (s.inColumn none).needsTriage = true :=
  needsTriage_iff.2 (.inl nofun)

theorem needsTriage_inColumn_of_isBlank {p : Pipeline} (h : p.IsBlank) (s : Signals) :
    (s.inColumn (some p)).needsTriage = true ↔ s.IsUntouched := by
  rw [needsTriage_iff]
  refine or_iff_right fun hname => ?_
  have huntriaged := Pipeline.isUntriaged_of_isBlank h
  rw [Pipeline.isUntriaged, hname p rfl] at huntriaged
  cases huntriaged

end Signals

namespace Decision

variable {i : Issue} {p : PolicyRecord} {s : Signals} {now : Instant} {column : Pipeline}

/-- A blank column and none lead to different decisions: the issue gets as far as triage, which it
needs only for want of a column, and it is either recent enough or carries the triage label
already. -/
structure ToldApart (i : Issue) (p : PolicyRecord) (s : Signals) (now : Instant) : Prop where
  settled : now.isWithin i.createdAt p.triageDelay = false
  notIgnored : i.labels.find? p.isIgnoreLabel = none
  opened : i.state ≠ .closed
  issue : i.isPullRequest = false
  touched : ¬ s.IsUntouched
  shown : awaitsTriage i p (s.inColumn none) now = true ∨ i.hasLabel p.triageLabel = true

theorem openItem_disposition_ne (labels : LabelScan) :
    (openItem i p labels s now).disposition ≠ .needsTriage := by
  have hform := ageing_ageForm p labels (p.stalenessDelays (stalenessKind i labels))
    (reference i s) now
  rw [openItem]
  dsimp only
  generalize ageing p labels _ (reference i s) now = aged at hform ⊢
  intro heq
  cases hform <;> cases heq

/-- Behind triage, the column of an issue makes a difference to its triage label only. -/
theorem openItem_inColumn (h : column.IsBlank) (labels : LabelScan) :
    openItem i p labels (s.inColumn (some column)) now =
      { openItem i p labels (s.inColumn none) now with
        actions := triageActions i p labels (s.inColumn (some column)) ++
          (openItem i p labels (s.inColumn none) now).actions } := by
  have hreference : reference i (s.inColumn (some column)) = reference i (s.inColumn none) := rfl
  have hoverdue (t : Instant) : isOverdue p (s.inColumn (some column)) t now =
      isOverdue p (s.inColumn none) t now := by
    have hpriority : (s.inColumn (some column)).isHighPriority = false :=
      Pipeline.isHighPriority_of_isBlank h
    rw [isOverdue, hpriority]
    rfl
  have hnone : triageActions i p labels (s.inColumn none) = [] := by
    rw [triageActions, s.needsTriage_inColumn_none, Bool.not_true, Bool.and_false]
    rfl
  simp only [openItem, hreference, hoverdue, hnone, List.nil_append, List.append_assoc]

theorem awaitsTriage_inColumn_of_isBlank (h : column.IsBlank) :
    awaitsTriage i p (s.inColumn (some column)) now = true ↔
      awaitsTriage i p (s.inColumn none) now = true ∧ s.IsUntouched := by
  rw [← s.needsTriage_inColumn_of_isBlank h]
  simp only [awaitsTriage, s.needsTriage_inColumn_none, Bool.and_eq_true]
  tauto

theorem triageActions_eq_nil_iff : triageActions i p (.carried p i) s = [] ↔
    i.isPullRequest = true ∨ s.needsTriage = true ∨ i.hasLabel p.triageLabel = false := by
  have hcarried : (LabelScan.carried p i).triage = i.hasLabel p.triageLabel := rfl
  unfold triageActions removeIf
  rw [hcarried]
  cases i.isPullRequest <;> cases s.needsTriage <;> cases i.hasLabel p.triageLabel <;> simp

theorem openItem_inColumn_ne_iff (h : column.IsBlank) :
    openItem i p (.carried p i) (s.inColumn (some column)) now ≠
        openItem i p (.carried p i) (s.inColumn none) now ↔
      i.isPullRequest = false ∧ ¬ s.IsUntouched ∧ i.hasLabel p.triageLabel = true := by
  have hnil : openItem i p (.carried p i) (s.inColumn (some column)) now =
      openItem i p (.carried p i) (s.inColumn none) now ↔
        triageActions i p (.carried p i) (s.inColumn (some column)) = [] := by
    rw [openItem_inColumn h]
    refine ⟨fun heq => ?_, fun hnil => by rw [hnil, List.nil_append]⟩
    exact List.append_left_eq_self.1 (congrArg Decision.actions heq)
  rw [Ne, hnil, triageActions_eq_nil_iff, s.needsTriage_inColumn_of_isBlank h]
  simp

theorem isPullRequest_of_awaitsTriage (h : awaitsTriage i p s now = true) :
    i.isPullRequest = false := by
  simp only [awaitsTriage, Bool.and_eq_true, Bool.not_eq_true'] at h
  exact h.1.1

/-- What is left of an evaluation from triage on. -/
theorem triaged_inColumn_ne_iff (h : column.IsBlank) :
    ((if awaitsTriage i p (s.inColumn (some column)) now then triageItem p (.carried p i)
        else openItem i p (.carried p i) (s.inColumn (some column)) now) ≠
      if awaitsTriage i p (s.inColumn none) now then triageItem p (.carried p i)
        else openItem i p (.carried p i) (s.inColumn none) now) ↔
      i.isPullRequest = false ∧ ¬ s.IsUntouched ∧
        (awaitsTriage i p (s.inColumn none) now = true ∨ i.hasLabel p.triageLabel = true) := by
  have hcolumn : awaitsTriage i p (s.inColumn (some column)) now = true ↔
      awaitsTriage i p (s.inColumn none) now = true ∧ s.IsUntouched :=
    awaitsTriage_inColumn_of_isBlank h
  by_cases hnone : awaitsTriage i p (s.inColumn none) now = true
  · have hissue := isPullRequest_of_awaitsTriage hnone
    rw [if_pos hnone]
    by_cases huntouched : s.IsUntouched
    · rw [if_pos (hcolumn.2 ⟨hnone, huntouched⟩)]
      exact iff_of_false (fun hne => hne rfl) fun htold => htold.2.1 huntouched
    · rw [if_neg fun hsome => huntouched (hcolumn.1 hsome).2]
      refine iff_of_true (fun heq => ?_) ⟨hissue, huntouched, .inl hnone⟩
      exact openItem_disposition_ne _ (congrArg Decision.disposition heq)
  · rw [if_neg hnone, if_neg fun hsome => hnone (hcolumn.1 hsome).1, openItem_inColumn_ne_iff h,
      or_iff_right hnone]

/-- Some decisions tell a blank column from none. -/
theorem evaluate_inColumn_ne_iff (h : column.IsBlank) :
    evaluate i p (s.inColumn (some column)) now ≠ evaluate i p (s.inColumn none) now ↔
      ToldApart i p s now := by
  rw [evaluate_eq, evaluate_eq]
  by_cases hnew : now.isWithin i.createdAt p.triageDelay = true
  · rw [if_pos hnew, if_pos hnew]
    refine iff_of_false (fun hne => hne rfl) fun htold => ?_
    rw [htold.settled] at hnew
    cases hnew
  rw [if_neg hnew, if_neg hnew]
  cases hignored : i.labels.find? p.isIgnoreLabel with
  | some l =>
    refine iff_of_false (fun hne => hne rfl) fun htold => ?_
    rw [htold.notIgnored] at hignored
    cases hignored
  | none =>
    dsimp only
    by_cases hclosed : i.state = .closed
    · rw [if_pos hclosed, if_pos hclosed]
      exact iff_of_false (fun hne => hne rfl) fun htold => htold.opened hclosed
    rw [if_neg hclosed, if_neg hclosed, triaged_inColumn_ne_iff h]
    constructor
    · rintro ⟨hissue, htouched, hshown⟩
      exact ⟨Bool.eq_false_iff.2 hnew, hignored, hclosed, hissue, htouched, hshown⟩
    · exact fun htold => ⟨htold.issue, htold.touched, htold.shown⟩

end Decision

/-- What every value that can be decoded, and every column however it was come by, guarantees.

Delays and repositories are as if they had been read from their texts. A column is decoded from any
text, blank or not, while the constructor and the board give none that is blank. Signals ask for
triage if their column is absent or the one of new issues; a blank column asks for it only if no
member has touched the item, and leads to another decision than none exactly if the two are told
apart. -/
theorem decoded_invariants (v : Value) (s : Signals) :
    (∀ d, Decoder.delay v = .ok d → d.seconds ≤ Delay.maxSeconds) ∧
    (∀ r, Decoder.repositoryId v = .ok r → IsNamePart r.org ∧ IsNamePart r.name) ∧
    (∀ column, Pipeline.ofValue v = .ok column ↔ v = .text column.name) ∧
    (∀ name column, Pipeline.ofName? name = some column → ¬ column.IsBlank) ∧
    (∀ response now column, ZenHub.Client.ofResponse response now = .ok (some column) →
      ¬ column.IsBlank) ∧
    (s.needsTriage = true ↔
      (∀ column ∈ s.pipeline, column.name = Pipeline.newIssues) ∨ s.IsUntouched) ∧
    ∀ column : Pipeline, column.IsBlank →
      ((s.inColumn (some column)).needsTriage = true ↔ s.IsUntouched) ∧
      ∀ (i : Issue) (p : PolicyRecord) (now : Instant),
        evaluate i p (s.inColumn (some column)) now ≠ evaluate i p (s.inColumn none) now ↔
          Decision.ToldApart i p s now :=
  ⟨fun _ => Delay.seconds_le_of_decoded, fun _ => RepositoryId.isNamePart_of_decoded,
    fun _ => Pipeline.ofValue_eq_ok_iff, fun _ _ => Pipeline.not_isBlank_of_ofName?,
    fun _ _ _ => Pipeline.not_isBlank_of_ofResponse, Signals.needsTriage_iff,
    fun _ h => ⟨s.needsTriage_inColumn_of_isBlank h, fun _ _ _ =>
      Decision.evaluate_inColumn_ne_iff h⟩⟩

/-- The signals about an issue that a member has commented on, in a column without a name. -/
def namelessSignals : Value :=
  .table [("latest_member_comment", .text "2020-12-01T12:30:00Z"), ("pipeline", .text "")]

/-- An issue that is not on the board. -/
def offBoardIssue : Issue where
  reference := ⟨⟨"istio", "istio"⟩, 1⟩
  isPullRequest := false
  createdAt := .clamp 1606737600000000000
  state := .opened
  labels := []
  body := ""

/-- A column without a name is decoded, and its issue is not triaged. -/
theorem nameless_column_untriaged :
    let s : Signals := ⟨some (.clamp 1606825800000000000), none, some ⟨""⟩⟩
    let now : Instant := .clamp 1609416000000000000
    Signals.ofValue namelessSignals = .ok s ∧ s.needsTriage = false ∧
      (evaluate offBoardIssue {} s now).disposition = .active ∧
      (evaluate offBoardIssue {} (s.inColumn none) now).disposition = .needsTriage := by
  decide +kernel

end Upkeep
