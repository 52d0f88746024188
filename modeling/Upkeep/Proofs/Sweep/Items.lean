import Upkeep.Proofs.World.Actions
/-!
# What sweeping a repository does to the items of a world

Where the references of the items are distinct, each item of the repository is swept on its own,
whatever becomes of the others (`sweepRepository_items`).
-/

namespace Upkeep.World

variable {w v : World} {settings : Settings} {registry : Registry} {p : PolicyRecord}
  {now : Instant}

/-- No two items have the same reference. -/
def DistinctItems (w : World) : Prop := (w.items.map (·.issue.reference)).Nodup

instance (w : World) : Decidable w.DistinctItems := inferInstanceAs (Decidable (List.Nodup _))

theorem DistinctItems.of_map {f : WorldItem → WorldItem} (hw : w.DistinctItems)
    (hf : ∀ it, (f it).issue.reference = it.issue.reference) (hv : v.items = w.items.map f) :
    v.DistinctItems := by
  unfold DistinctItems
  rw [hv, List.map_map]
  exact (List.map_congr_left fun it _ => hf it) ▸ hw

/-! ## One item -/

/-- The signals that the manager takes for an item. -/
def signalsOf (w : World) (settings : Settings) (i : Issue) : Except LifecycleError Signals :=
  if i.state = .closed then .ok .unknown else w.signals settings.signalTimeout i.reference

/-- The actions that are carried out on an item when it is processed. -/
def done (w : World) (settings : Settings) (p : PolicyRecord) (now : Instant) (i : Issue) :
    List Action :=
  match w.signalsOf settings i with
  | .error _ => []
  | .ok s => w.accepted i.reference (evaluate i p s now).actions

/-- The item after it was processed. -/
def settled (w : World) (settings : Settings) (p : PolicyRecord) (now : Instant)
    (it : WorldItem) : WorldItem :=
  it.actAll (w.done settings p now it.issue)

/-- The item is listed when its repository is swept. -/
def lists (w : World) (it : WorldItem) : Bool :=
  (w.failureOf .openIssues it.issue.reference.repository.text none).isNone &&
    (w.listClosed || it.issue.state == .opened)

/-- The item after a sweep. -/
def swept (w : World) (settings : Settings) (registry : Registry) (now : Instant)
    (it : WorldItem) : WorldItem :=
  match registry.recordFor it.issue.reference.repository with
  | none => it
  | some p => if w.lists it then w.settled settings p now it else it

theorem swept_congr (h : w.setting = v.setting) : w.swept = v.swept := by
  rw [eq_of_setting h]
  rfl

@[simp] theorem settled_reference (it : WorldItem) :
    (w.settled settings p now it).issue.reference = it.issue.reference :=
  it.actAll_reference _

@[simp] theorem swept_reference (it : WorldItem) :
    (w.swept settings registry now it).issue.reference = it.issue.reference := by
  unfold swept
  split
  · rfl
  split
  · exact it.actAll_reference _
  · rfl

theorem signalsFor_apply (w : World) (settings : Settings) (i : Issue) :
    Manager.signalsFor tracker settings i w = (w.signalsOf settings i, w) := by
  unfold Manager.signalsFor signalsOf
  split <;> rfl

theorem processIssue_apply (w : World) (settings : Settings) (p : PolicyRecord) (now : Instant)
    (i : Issue) :
    Manager.processIssue tracker settings p now false i w =
      match w.signalsOf settings i with
      | .error e => (.error e, w)
      | .ok s =>
        let d := evaluate i p s now
        let applied := Manager.applyActions tracker i.reference false d.actions
          (w.note (.seen (.evaluated i.reference d.disposition)))
        (applied.1.map fun _ => d, applied.2) := by
  rw [Manager.processIssue, bind_apply, signalsFor_apply]
  cases w.signalsOf settings i with
  | error e => rfl
  | ok s =>
    have ho (d : Decision) : tracker.observe (.evaluated i.reference d.disposition) w =
      ((), w.note (.seen (.evaluated i.reference d.disposition))) := rfl
    dsimp only
    rw [bind_apply, bind_apply, ho]
    cases (Manager.applyActions tracker i.reference false (evaluate i p s now).actions
      (w.note (.seen (.evaluated i.reference (evaluate i p s now).disposition)))).1 <;> rfl

theorem processIssue_setting (w : World) (settings : Settings) (p : PolicyRecord) (now : Instant)
    (i : Issue) :
    (Manager.processIssue tracker settings p now false i w).2.setting = w.setting := by
  rw [processIssue_apply]
  cases w.signalsOf settings i with
  | error e => rfl
  | ok s => exact applyActions_setting _ _ _

/-- Processing an item changes that item only. -/
theorem processIssue_items (w : World) (settings : Settings) (p : PolicyRecord) (now : Instant)
    (i : Issue) :
    (Manager.processIssue tracker settings p now false i w).2.items =
      updateFirst i.reference (·.actAll (w.done settings p now i)) w.items := by
  rw [processIssue_apply, done]
  cases w.signalsOf settings i with
  | error e => exact (updateFirst_id _ _).symm
  | ok s => exact applyActions_items _ _ _

/-! ## The items of a repository -/

/-- Where references are distinct, changing the first item with a reference changes all of them. -/
theorem updateFirst_eq_map (f : WorldItem → WorldItem) (ref : IssueRef) {items : List WorldItem}
    (h : (items.map (·.issue.reference)).Nodup) :
    updateFirst ref f items =
      items.map fun it => if it.issue.reference = ref then f it else it := by
  induction items with
  | nil => rfl
  | cons it items ih =>
    obtain ⟨hnot, htail⟩ := List.nodup_cons.1 h
    unfold updateFirst
    rw [List.map_cons]
    split
    · next href =>
      have hother : ∀ u ∈ items, (if u.issue.reference = ref then f u else u) = u :=
        fun u hu => if_neg fun hu' => hnot (List.mem_map.2 ⟨u, hu, hu'.trans href.symm⟩)
      rw [List.map_congr_left hother, List.map_id']
    · rw [ih htail]

/-- The manager goes on to the next item whatever came of this one. -/
theorem processIssues_cons (w : World) (settings : Settings) (p : PolicyRecord) (now : Instant)
    (report : RepositoryReport) (i : Issue) (rest : List Issue) :
    ∃ report' u, u.items = (Manager.processIssue tracker settings p now false i w).2.items ∧
      u.setting = w.setting ∧
      Manager.processIssues tracker settings p now false report (i :: rest) w =
        Manager.processIssues tracker settings p now false report' rest u := by
  have hset := processIssue_setting w settings p now i
  rw [Manager.processIssues, bind_apply]
  generalize Manager.processIssue tracker settings p now false i w = out at hset ⊢
  obtain ⟨r, u⟩ := out
  cases r with
  | error e => exact ⟨_, u.note (.seen (.failed i.reference e)), rfl, hset, rfl⟩
  | ok d => exact ⟨_, u, rfl, hset, rfl⟩

/-- Of the items with distinct references, the ones in the list are settled. -/
theorem processIssues_items (settings : Settings) (p : PolicyRecord) (now : Instant)
    (report : RepositoryReport) {issues : List Issue} {w : World} (hw : w.DistinctItems)
    (hi : (issues.map Issue.reference).Nodup)
    (hcur : ∀ it ∈ w.items, ∀ i ∈ issues, it.issue.reference = i.reference → it.issue = i) :
    (Manager.processIssues tracker settings p now false report issues w).2.items =
        w.items.map (fun it => if it.issue ∈ issues then w.settled settings p now it else it) ∧
      (Manager.processIssues tracker settings p now false report issues w).2.setting =
        w.setting := by
  induction issues generalizing w report with
  | nil =>
    refine ⟨?_, rfl⟩
    simp only [List.not_mem_nil, if_false, List.map_id']
    rfl
  | cons i rest ih =>
    obtain ⟨hnot, hrest⟩ := List.nodup_cons.1 hi
    obtain ⟨report', u, hitems, hset, hgo⟩ := processIssues_cons w settings p now report i rest
    have hone : u.items = w.items.map fun it =>
        if it.issue = i then w.settled settings p now it else it := by
      rw [hitems, processIssue_items, updateFirst_eq_map _ _ hw]
      refine List.map_congr_left fun it hit => ?_
      by_cases h : it.issue.reference = i.reference
      · obtain rfl := hcur it hit i List.mem_cons_self h
        rw [if_pos rfl, if_pos rfl]
        rfl
      · rw [if_neg h, if_neg fun h' => h (congrArg Issue.reference h')]
    have href (it : WorldItem) : (if it.issue = i then w.settled settings p now it
        else it).issue.reference = it.issue.reference := by
      split <;> simp
    -- An item that was settled is none of those that are left, by its reference.
    have hleft : ∀ it ∈ w.items, it.issue = i → ∀ j ∈ rest,
        (w.settled settings p now it).issue.reference ≠ j.reference := by
      rintro it - rfl j hj h
      exact hnot (List.mem_map.2 ⟨j, hj, by rw [← h, settled_reference]⟩)
    have hstep := ih report' (hw.of_map href hone) hrest fun it hit j hj hij => by
      rw [hone] at hit
      obtain ⟨it, hit', rfl⟩ := List.mem_map.1 hit
      split at hij
      · next h => exact absurd hij (hleft it hit' h j hj)
      · next h => rw [if_neg h]; exact hcur it hit' j (List.mem_cons_of_mem _ hj) hij
    rw [hgo, hstep.1, hstep.2, hone, hset, List.map_map]
    refine ⟨List.map_congr_left fun it hit => ?_, rfl⟩
    have hsettled : u.settled = w.settled := by rw [eq_of_setting hset]; rfl
    simp only [Function.comp_apply, List.mem_cons, hsettled]
    by_cases h : it.issue = i
    · have hnotin : (w.settled settings p now it).issue ∉ rest :=
        fun hm => hleft it hit h _ hm rfl
      simp only [h, if_true, true_or]
      rw [if_neg hnotin]
    · simp only [h, if_false, false_or]

/-- The items of repositories that are not configured are left alone. -/
theorem swept_of_notMem {it : WorldItem}
    (h : it.issue.reference.repository ∉ registry.repositories) :
    w.swept settings registry now it = it := by
  unfold swept Registry.recordFor
  rw [if_neg h]

theorem mem_listed {it : WorldItem} (hit : it ∈ w.items) (r : RepositoryId) :
    it.issue ∈ w.listed r ↔
      it.issue.reference.repository = r ∧ (w.listClosed || it.issue.state == .opened) = true := by
  unfold listed
  rw [List.mem_filter, Bool.and_eq_true, beq_iff_eq]
  exact and_iff_right (List.mem_map.2 ⟨it, hit, rfl⟩)

theorem tracker_openIssues (w : World) (r : RepositoryId) :
    tracker.openIssues r w = (match w.failureOf .openIssues r.text none with
      | some e => .error e
      | none => .ok (w.listed r), w) := rfl

/-- The items of a repository are swept, and the others stay as they are. -/
theorem sweepRepository_items (settings : Settings) (registry : Registry) (now : Instant)
    (r : RepositoryId) {w : World} (hw : w.DistinctItems) :
    (Manager.sweepRepository tracker settings registry now false r w).2.items =
        w.items.map (fun it => if it.issue.reference.repository = r then
          w.swept settings registry now it else it) ∧
      (Manager.sweepRepository tracker settings registry now false r w).2.setting = w.setting := by
  have hsame (h : ∀ it ∈ w.items, it.issue.reference.repository = r →
      w.swept settings registry now it = it) : w.items =
        w.items.map fun it => if it.issue.reference.repository = r then
          w.swept settings registry now it else it := by
    have hid : ∀ it ∈ w.items, (if it.issue.reference.repository = r then
        w.swept settings registry now it else it) = it := by
      intro it hit
      split
      · next hr => exact h it hit hr
      · rfl
    rw [List.map_congr_left hid, List.map_id']
  rw [Manager.sweepRepository]
  cases hrec : registry.recordFor r with
  | none =>
    refine ⟨hsame fun it _ hr => ?_, rfl⟩
    unfold swept
    rw [hr, hrec]
  | some p =>
    dsimp only
    rw [bind_apply, tracker_openIssues]
    cases hlist : w.failureOf .openIssues r.text none with
    | some e =>
      refine ⟨hsame fun it _ hr => ?_, rfl⟩
      unfold swept lists
      rw [hr, hrec, hlist]
      rfl
    | none =>
      have hrefs : ((w.listed r).map Issue.reference).Nodup := by
        refine List.Nodup.sublist (List.Sublist.map _ List.filter_sublist) ?_
        rw [List.map_map]
        exact hw
      have hcur : ∀ it ∈ w.items, ∀ i ∈ w.listed r, it.issue.reference = i.reference →
          it.issue = i := by
        intro it hit i hi h
        obtain ⟨u, hu, rfl⟩ := List.mem_map.1 (List.mem_of_mem_filter hi)
        rw [List.inj_on_of_nodup_map hw hit hu h]
      obtain ⟨hitems, hset⟩ := processIssues_items settings p now { repository := r } hw hrefs hcur
      dsimp only
      rw [bind_apply]
      refine ⟨hitems.trans (List.map_congr_left fun it hit => ?_), hset⟩
      by_cases hr : it.issue.reference.repository = r
      · simp only [mem_listed hit, swept, lists, hr, hrec, hlist, Option.isNone_none, true_and,
          Bool.true_and, if_true]
      · simp only [mem_listed hit, hr, false_and, if_false]

end Upkeep.World
