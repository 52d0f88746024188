import Upkeep.Proofs.Policy.Registry
import Upkeep.Proofs.Sweep.Items
import Upkeep.Proofs.Sweep.Schedule
/-!
# Sweeps converge

After a sweep, none of the labels of the plan is left to be put right, and the comment is the one
that the plan asks for; a decision on the item at the same time asks for nothing new
(`actAll_again`). The exception are items that the sweep has closed: they get another decision,
which takes away the labels that ask for attention, and settle after that.
-/

namespace Upkeep

/-! ## One item -/

namespace WorldItem

variable {it : WorldItem} {p : PolicyRecord} {s : Signals} {now : Instant}

theorem actAll_eq_self {as : List Action} (h : ∀ a ∈ as, it.act a = it) : it.actAll as = it := by
  induction as with
  | nil => rfl
  | cons a as ih =>
    rw [actAll_cons, h a List.mem_cons_self]
    exact ih fun b hb => h b (List.mem_cons_of_mem _ hb)

/-- Unless it closes the item, a decision that was carried out leaves nothing to change for the
next one. -/
theorem actAll_again (hp : p.DistinctLabels) {as : List Action}
    (has : (evaluate it.issue p s now).actions = as) (hclose : .close ∉ as) :
    (it.actAll as).actAll (evaluate (it.actAll as).issue p s now).actions = it.actAll as := by
  rw [evaluate_actions] at has ⊢
  have hap := Decision.plan_pairwise_apart hp it.issue s now
  have hissue : (it.actAll as).issue = it.issue.applyAll as := by
    subst has
    exact actAll_issue (hap.filter _) fun a ha => (List.mem_filter.1 ha).2
  -- The plan is the same as before, so what it still asks for can only be the comment.
  refine actAll_eq_self fun a ha => ?_
  obtain ⟨hmem, hpend⟩ := List.mem_filter.1 ha
  have hign : (it.actAll as).issue.isIgnored p = it.issue.isIgnored p := by
    rw [Decision.not_isIgnored_of_mem_plan hmem]
    cases h : it.issue.isIgnored p with
    | false => rfl
    | true =>
      -- Nothing was done on an ignored item, so it is ignored still.
      rw [Decision.plan_of_isIgnored h, List.filter_nil] at has
      subst has
      rw [actAll_nil, Decision.plan_of_isIgnored h] at hmem
      cases hmem
  have hsub : as ⊆ Decision.plan it.issue p s now := has ▸ List.filter_subset_self _
  rw [hissue] at hmem hpend hign
  rw [Decision.plan_applyAll hp hsub hclose hign] at hmem
  have hlabel : a.label? = none := by
    by_contra hl
    rw [← has, Decision.isPending_applyAll_filter hap hmem hl] at hpend
    cases hpend
  have hdone : a ∈ as :=
    has ▸ List.mem_filter.2 ⟨hmem, Action.isPending_of_label?_eq_none hlabel _⟩
  have hcomment : a.isComment = true := by
    cases a with
    | close => exact absurd hdone hclose
    | addLabel _ => cases hlabel
    | removeLabel _ => cases hlabel
    | _ => rfl
  have hbot : (it.actAll as).botComment = if a ∈ as then a.comment? else it.botComment :=
    actAll_botComment hcomment fun b hb hcb =>
      Decision.comment_unique (hsub hb) hmem hcb hcomment
  rw [if_pos hdone] at hbot
  rw [act_of_isComment hcomment, ← hbot]

/-- The second item is the first without some of the given labels. -/
def LosesOnly (ls : List String) (a b : WorldItem) : Prop :=
  ∃ gone, gone ⊆ ls ∧
    b = { a with issue := { a.issue with labels := a.issue.labels.filter (· ∉ gone) } }

theorem actAll_losesOnly {ls : List String} {as : List Action}
    (h : ∀ a ∈ as, ∃ l ∈ ls, a = .removeLabel l) : it.LosesOnly ls (it.actAll as) := by
  induction as generalizing it with
  | nil => exact ⟨[], List.nil_subset _, by simp⟩
  | cons a as ih =>
    obtain ⟨l, hl, rfl⟩ := h a List.mem_cons_self
    obtain ⟨gone, hgone, hrest⟩ := ih fun b hb => h b (List.mem_cons_of_mem _ hb)
    refine ⟨l :: gone, List.cons_subset.2 ⟨hl, hgone⟩, hrest.trans ?_⟩
    have hact : it.act (.removeLabel l) =
        { it with issue := { it.issue with labels := it.issue.labels.filter (· != l) } } := rfl
    have hgoes (m : String) : (decide (m ∉ gone) && m != l) = decide (m ∉ l :: gone) := by
      rw [Bool.eq_iff_iff]
      simp only [Bool.and_eq_true, decide_eq_true_eq, bne_iff_ne, List.mem_cons, not_or]
      exact and_comm
    rw [hact]
    simp only [List.filter_filter, hgoes]

end WorldItem

/-! ## Sweep after sweep -/

namespace World

variable {w : World} {settings : Settings} {registry : Registry} {p : PolicyRecord}
  {now : Instant} {it : WorldItem}

/-- What is done on an item whose changes are all accepted: its decision, or nothing at all if a
lookup fails. -/
theorem done_cases (h : ∀ a, w.refusal it.issue.reference a = none) (settings : Settings)
    (p : PolicyRecord) (now : Instant) :
    (∃ e, w.signalsOf settings it.issue = .error e ∧ w.settled settings p now it = it) ∨
      ∃ s, w.signalsOf settings it.issue = .ok s ∧
        w.settled settings p now it = it.actAll (evaluate it.issue p s now).actions := by
  unfold settled done
  cases w.signalsOf settings it.issue with
  | error e => exact .inl ⟨e, rfl, rfl⟩
  | ok s => exact .inr ⟨s, rfl, by dsimp only; rw [accepted_eq_self fun a _ => h a]⟩

/-- An item that was not closed by being processed is settled. -/
theorem settled_settled (hp : p.DistinctLabels) (h : ∀ a, w.refusal it.issue.reference a = none)
    (hst : (w.settled settings p now it).issue.state = it.issue.state) :
    w.settled settings p now (w.settled settings p now it) = w.settled settings p now it := by
  rcases done_cases h settings p now with ⟨e, -, he⟩ | ⟨s, hs, he⟩
  · rw [he, he]
  · have hsame : w.signalsOf settings (w.settled settings p now it).issue = .ok s := by
      rw [← hs, signalsOf, signalsOf, hst, settled_reference]
    have hclose : .close ∉ (evaluate it.issue p s now).actions := by
      intro hc
      rw [he, WorldItem.actAll_state, if_pos hc] at hst
      rcases Decision.mem_plan_closed hst.symm (Decision.mem_actions.1 hc).1 with h | h <;> cases h
    have h' : ∀ a, w.refusal (w.settled settings p now it).issue.reference a = none := by
      rwa [settled_reference]
    rcases done_cases h' settings p now with ⟨e, hs', -⟩ | ⟨s', hs', he'⟩
    · rw [hsame] at hs'
      cases hs'
    · rw [hsame] at hs'
      cases hs'
      rw [he', he]
      exact WorldItem.actAll_again hp rfl hclose

/-- A closed item only loses the labels that ask for attention. -/
theorem settled_losesOnly (h : ∀ a, w.refusal it.issue.reference a = none)
    (hst : it.issue.state = .closed) :
    it.LosesOnly [p.triageLabel, p.escalationLabel] (w.settled settings p now it) := by
  rcases done_cases h settings p now with ⟨e, -, he⟩ | ⟨s, -, he⟩ <;> rw [he]
  · exact ⟨[], List.nil_subset _, by simp⟩
  · refine WorldItem.actAll_losesOnly fun a ha => ?_
    rcases Decision.mem_plan_closed hst (Decision.mem_actions.1 ha).1 with rfl | rfl
    · exact ⟨_, List.mem_cons_self, rfl⟩
    · exact ⟨_, List.mem_cons_of_mem _ List.mem_cons_self, rfl⟩

/-- Whether an item is listed depends on its repository and its state. -/
theorem lists_congr {a b : WorldItem} (href : b.issue.reference = a.issue.reference)
    (hst : b.issue.state = a.issue.state) : w.lists b = w.lists a := by
  unfold lists
  rw [href, hst]

/-- A sweep leaves an item as it is, or lists and settles it. -/
theorem swept_cases (it : WorldItem) :
    w.swept settings registry now it = it ∨
      ∃ p, registry.recordFor it.issue.reference.repository = some p ∧ w.lists it = true ∧
        w.swept settings registry now it = w.settled settings p now it := by
  unfold swept
  split
  · exact .inl rfl
  · next p hp =>
    split
    · next hl => exact .inr ⟨p, hp, hl, rfl⟩
    · exact .inl rfl

theorem swept_of_lists (hp : registry.recordFor it.issue.reference.repository = some p)
    (hl : w.lists it = true) :
    w.swept settings registry now it = w.settled settings p now it := by
  unfold swept
  rw [hp, hl]
  rfl

theorem settled_state (w : World) (settings : Settings) (p : PolicyRecord) (now : Instant)
    (it : WorldItem) :
    (w.settled settings p now it).issue.state = it.issue.state ∨
      it.issue.state = .opened ∧ (w.settled settings p now it).issue.state = .closed := by
  unfold settled
  rw [WorldItem.actAll_state]
  split
  · cases it.issue.state with
    | opened => exact .inr ⟨rfl, rfl⟩
    | closed => exact .inl rfl
  · exact .inl rfl

/-- What becomes of an item in a second and a third sweep. -/
theorem swept_again (hrec : ∀ r p, registry.recordFor r = some p → p.DistinctLabels)
    (h : ∀ a, w.refusal it.issue.reference a = none) (settings : Settings) (now : Instant) :
    let sweep := w.swept settings registry now
    (sweep (sweep it) = sweep it ∨
        w.listClosed = true ∧ it.issue.state = .opened ∧ (sweep it).issue.state = .closed ∧
          ∃ p, registry.recordFor it.issue.reference.repository = some p ∧
            (sweep it).LosesOnly [p.triageLabel, p.escalationLabel] (sweep (sweep it))) ∧
      sweep (sweep (sweep it)) = sweep (sweep it) := by
  intro sweep
  have href (u : WorldItem) : (sweep u).issue.reference = u.issue.reference := swept_reference u
  have hstable : sweep (sweep it) = sweep it → sweep (sweep (sweep it)) = sweep (sweep it) :=
    fun hid => by rw [hid, hid]
  rcases swept_cases it with hid | ⟨p, hp, hl, he⟩
  -- Not listed, or without a record.
  · change sweep it = it at hid
    have hid' : sweep (sweep it) = sweep it := by rw [hid, hid]
    exact ⟨.inl hid', hstable hid'⟩
  have hpd := hrec _ p hp
  change sweep it = _ at he
  rcases settled_state w settings p now it with hst | ⟨hopen, hclosed⟩
  -- Not closed by the sweep: it is listed again, and has settled.
  · have hid' : sweep (sweep it) = sweep it := by
      have hl' : w.lists (sweep it) = true := by
        rw [lists_congr (href it) (he ▸ hst), hl]
      rw [show sweep (sweep it) = _ from swept_of_lists (by rw [href, hp]) hl', he,
        settled_settled hpd h hst]
    exact ⟨.inl hid', hstable hid'⟩
  -- Closed by the sweep: the next sweep looks at it only where closed items are listed.
  rw [← he] at hclosed
  have hacc : ∀ a, w.refusal (sweep it).issue.reference a = none := by rwa [href]
  rcases swept_cases (sweep it) with hid | ⟨q, hq, hl', he'⟩
  · exact ⟨.inl hid, hstable hid⟩
  obtain rfl : q = p := by
    rw [href, hp] at hq
    exact (Option.some.inj hq).symm
  change sweep (sweep it) = _ at he'
  obtain ⟨gone, hgone, hlost⟩ : (sweep it).LosesOnly [q.triageLabel, q.escalationLabel] _ :=
    settled_losesOnly hacc hclosed
  rw [← he'] at hlost
  have hst : (sweep (sweep it)).issue.state = (sweep it).issue.state := by rw [hlost]
  have hlists : w.listClosed = true := by
    unfold lists at hl'
    rw [hclosed] at hl'
    simpa using (Bool.and_eq_true_iff.1 hl').2
  refine ⟨.inr ⟨hlists, hopen, hclosed, q, hp, gone, hgone, hlost⟩, ?_⟩
  have hl'' : w.lists (sweep (sweep it)) = true := by rw [lists_congr (href _) hst, hl']
  rw [show sweep (sweep (sweep it)) = _ from swept_of_lists (by rw [href, href, hp]) hl'', he']
  exact settled_settled hpd hacc (he' ▸ hst)

/-- A wet sweep. -/
def sweep (pool : Pool (Fiber World)) (settings : Settings) (registry : Registry)
    (t : Timeline World) : Timeline World :=
  ((Manager.sweepAll tracker.steps pool settings registry false).run t).2

/-- Sweeping the repositories one after the other is a wet sweep. -/
theorem sweep_inTurn (choices : List Nat) (settings : Settings) (registry : Registry)
    (t : Timeline World) :
    (sweep (Pool.inTurn choices) settings registry t).state =
      (Manager.sweepAll tracker (Pool.inTurn choices) settings registry false t.state).2 := by
  rw [sweep, does_sweepAll]

/-- No sweep changes the setting, so that all of them act on an item in the same way. -/
theorem sweep_items (hr : registry.repositories.Nodup) {t u : Timeline World}
    (hu : u.state.DistinctItems) (hset : u.state.setting = t.state.setting)
    {pool : Pool (Fiber World)} (hpool : pool.Lawful) (settings : Settings) :
    (sweep pool settings registry u).state.items =
        u.state.items.map (t.state.swept settings registry t.state.now) ∧
      (sweep pool settings registry u).state.setting = t.state.setting ∧
      (sweep pool settings registry u).state.DistinctItems := by
  obtain ⟨hitems, hset'⟩ := run_sweepAll_items hpool settings hr hu
  have hnow : u.state.now = t.state.now := (congrArg World.now hset :)
  rw [swept_congr hset, hnow] at hitems
  exact ⟨hitems, hset'.trans hset, hu.of_map (fun it => swept_reference it) hitems⟩

/-- An item before a sweep, after it and after another: the first sweep closed it, and the second
took nothing but the labels that ask for attention. -/
structure ClosedThenCleared (p : PolicyRecord) (before after later : WorldItem) : Prop where
  opened : before.issue.state = .opened
  closed : after.issue.state = .closed
  cleared : after.LosesOnly [p.triageLabel, p.escalationLabel] later

/-- Sweeps at the same time converge, however each of them interleaves the repositories. A second
sweep leaves every item as it is, unless closed items are listed and the first sweep has closed it;
a third sweep leaves them all. -/
theorem sweeps_converge {repositories : List RepositoryId} {default? : Option PolicyRecord}
    {overrides : List PolicyOverride}
    (hreg : Registry.build repositories default? overrides = .ok registry)
    (hrec : ∀ r p, registry.recordFor r = some p → p.DistinctLabels) {t : Timeline World}
    (hw : t.state.DistinctItems)
    (hacc : ∀ it ∈ t.state.items, ∀ a, t.state.refusal it.issue.reference a = none)
    {first second third : Pool (Fiber World)} (hfirst : first.Lawful) (hsecond : second.Lawful)
    (hthird : third.Lawful) (settings : Settings) :
    let t₁ := sweep first settings registry t
    let t₂ := sweep second settings registry t₁
    let t₃ := sweep third settings registry t₂
    (t.state.listClosed = false → t₂.state.items = t₁.state.items) ∧
      (∀ k : Nat, t₂.state.items[k]? = t₁.state.items[k]? ∨
        ∃ it it₁ it₂ p, t.state.items[k]? = some it ∧ t₁.state.items[k]? = some it₁ ∧
          t₂.state.items[k]? = some it₂ ∧
          registry.recordFor it.issue.reference.repository = some p ∧
          ClosedThenCleared p it it₁ it₂) ∧
      t₃.state.items = t₂.state.items := by
  intro t₁ t₂ t₃
  have hnodup := Registry.nodup_of_build hreg
  obtain ⟨hitems₁, hset₁, hw₁⟩ := sweep_items hnodup hw rfl hfirst settings
  obtain ⟨hitems₂, hset₂, hw₂⟩ := sweep_items hnodup hw₁ hset₁ hsecond settings
  obtain ⟨hitems₃, -, -⟩ := sweep_items hnodup hw₂ hset₂ hthird settings
  change t₁.state.items = _ at hitems₁
  change t₂.state.items = t₁.state.items.map _ at hitems₂
  change t₃.state.items = t₂.state.items.map _ at hitems₃
  have hagain (it : WorldItem) (hit : it ∈ t.state.items) :=
    swept_again hrec (hacc it hit) settings t.state.now
  rw [hitems₁, List.map_map] at hitems₂
  rw [hitems₂, List.map_map] at hitems₃
  refine ⟨fun hopen => ?_, fun k => ?_, ?_⟩
  · rw [hitems₂, hitems₁]
    refine List.map_congr_left fun it hit => (hagain it hit).1.resolve_right fun h => ?_
    rw [hopen] at h
    cases h.1
  · rw [hitems₂, hitems₁, List.getElem?_map, List.getElem?_map]
    cases hk : t.state.items[k]? with
    | none => exact .inl rfl
    | some it =>
      rcases (hagain it (List.mem_of_getElem? hk)).1 with hid | ⟨-, hopened, hclosed, p, hp, hloses⟩
      · exact .inl (congrArg some hid)
      · exact .inr ⟨it, _, _, p, rfl, rfl, rfl, hp, hopened, hclosed, hloses⟩
  · rw [hitems₃, hitems₂]
    exact List.map_congr_left fun it hit => (hagain it hit).2

/-- A pull request from long ago. -/
def oldPullRequest (state : IssueState) (labels : List String) : WorldItem :=
  { issue := ⟨⟨⟨"istio", "istio"⟩, 1⟩, true, .clamp 0, state, labels, ""⟩ }

/-- A pull request that is due for closing, and that somebody has marked for triage. -/
def markedWorld (listClosed : Bool) : World :=
  { items := [oldPullRequest .opened ["lifecycle/needs triage"]]
    listClosed
    now := .clamp (90 * nanosPerDay) }

def markedRegistry : Registry := ⟨[⟨"istio", "istio"⟩], some {}, []⟩

/-- The first sweep closes the pull request, and the second takes the mark away if closed items are
listed. -/
theorem sweeps_converge_marked :
    Registry.build [⟨"istio", "istio"⟩] (some {}) [] = .ok markedRegistry ∧
      (∀ listClosed, (markedWorld listClosed).DistinctItems) ∧
      (let t₁ := sweep ⟨Fiber.pool⟩ {} markedRegistry { state := markedWorld true }
      let t₂ := sweep (Pool.inTurn [1]) {} markedRegistry t₁
      let t₃ := sweep (Pool.inTurn []) {} markedRegistry t₂
      t₁.state.items = [oldPullRequest .closed ["lifecycle/needs triage"]] ∧
        t₂.state.items = [oldPullRequest .closed []] ∧
        (∃ it it₁ it₂ p, (markedWorld true).items[0]? = some it ∧ t₁.state.items[0]? = some it₁ ∧
          t₂.state.items[0]? = some it₂ ∧
          markedRegistry.recordFor it.issue.reference.repository = some p ∧
          ClosedThenCleared p it it₁ it₂) ∧
        t₃.state.items = t₂.state.items) ∧
      (let u₁ := sweep ⟨Fiber.pool⟩ {} markedRegistry { state := markedWorld false }
      let u₂ := sweep (Pool.inTurn [1]) {} markedRegistry u₁
      u₁.state.items = [oldPullRequest .closed ["lifecycle/needs triage"]] ∧
        u₂.state.items = u₁.state.items) := by
  have hreg : Registry.build [⟨"istio", "istio"⟩] (some {}) [] = .ok markedRegistry := rfl
  have hrec : ∀ r p, markedRegistry.recordFor r = some p → p.DistinctLabels := by
    intro r p h
    unfold Registry.recordFor at h
    split at h
    · obtain rfl := Option.some.inj h
      decide
    · cases h
  have hw : ∀ listClosed, (markedWorld listClosed).DistinctItems := by decide
  have hnodup := Registry.nodup_of_build hreg
  have hclosed (listClosed : Bool) :
      (sweep ⟨Fiber.pool⟩ {} markedRegistry { state := markedWorld listClosed }).state.items =
        [oldPullRequest .closed ["lifecycle/needs triage"]] := by
    rw [(sweep_items hnodup (hw listClosed) rfl Fiber.lawful_pool {}).1]
    revert listClosed
    decide
  obtain ⟨-, hset, hw₁⟩ := sweep_items hnodup (t := { state := markedWorld true }) (hw true) rfl
    Fiber.lawful_pool {}
  have hitems := (sweep_items hnodup hw₁ hset (Fiber.lawful_inTurn [1]) {}).1
  rw [hclosed true] at hitems
  have hcleared := hitems.trans (show _ = [oldPullRequest .closed []] by decide)
  obtain ⟨-, hsecond, hthird⟩ := sweeps_converge hreg hrec (t := { state := markedWorld true })
    (hw true) (fun _ _ _ => rfl) Fiber.lawful_pool (Fiber.lawful_inTurn [1])
    (Fiber.lawful_inTurn []) {}
  obtain ⟨hkept, -⟩ := sweeps_converge hreg hrec (t := { state := markedWorld false })
    (hw false) (fun _ _ _ => rfl) Fiber.lawful_pool (Fiber.lawful_inTurn [1])
    (Fiber.lawful_inTurn []) {}
  refine ⟨hreg, hw, ⟨hclosed true, hcleared, ?_, hthird⟩, hclosed false, hkept rfl⟩
  refine (hsecond 0).resolve_left fun hsame => ?_
  rw [hclosed true, hcleared] at hsame
  revert hsame
  decide

end World

end Upkeep
