import Upkeep.Proofs.Sweep.Trail
/-!
# Items change by the calls in the trail only

Whatever the manager does, an item that it asked for no change of is as it was (`AccountsFor`), and
this is so however the repositories of a sweep are interleaved (`run_sweepAll_accountsFor`).
-/

namespace Upkeep.World

/-- Each item is still there, and if the entries have no call about it, it is as it was. -/
structure AccountsFor (entries : List TrailEntry) (items items' : List WorldItem) : Prop where
  length : items'.length = items.length
  item : ∀ (k : Nat) (it : WorldItem), items[k]? = some it →
    ∃ it', items'[k]? = some it' ∧ it'.issue.reference = it.issue.reference ∧
      ((∀ m, .call it.issue.reference m ∉ entries) → it' = it)

namespace AccountsFor

variable {entries entries' : List TrailEntry} {items items' items'' : List WorldItem}

theorem refl (entries : List TrailEntry) (items : List WorldItem) :
    AccountsFor entries items items := ⟨rfl, fun _ it hit => ⟨it, hit, rfl, fun _ => rfl⟩⟩

theorem append (h : AccountsFor entries items items') (h' : AccountsFor entries' items' items'') :
    AccountsFor (entries ++ entries') items items'' := by
  refine ⟨h'.length.trans h.length, ?_⟩
  intro k it hit
  obtain ⟨it', hit', href, hsame⟩ := h.item k it hit
  obtain ⟨it'', hit'', href', hsame'⟩ := h'.item k it' hit'
  refine ⟨it'', hit'', href'.trans href, ?_⟩
  intro hnone
  have hfirst : it' = it := hsame fun m hm => hnone m (List.mem_append_left _ hm)
  have hsecond : it'' = it' := by
    refine hsame' fun m hm => ?_
    rw [href] at hm
    exact hnone m (List.mem_append_right _ hm)
  rw [hsecond, hfirst]

/-- A change of an item that is called for touches no other item. -/
theorem updateFirst {f : WorldItem → WorldItem}
    (hf : ∀ it, (f it).issue.reference = it.issue.reference) {ref : IssueRef} {m : Mutation}
    (hcall : .call ref m ∈ entries) (items : List WorldItem) :
    AccountsFor entries items (World.updateFirst ref f items) := by
  induction items with
  | nil => exact .refl entries []
  | cons first rest ih =>
    unfold World.updateFirst
    by_cases hfirst : first.issue.reference = ref
    · rw [if_pos hfirst]
      refine ⟨rfl, ?_⟩
      intro k it hit
      cases k with
      | zero =>
        obtain rfl : first = it := by simpa using hit
        exact ⟨f first, rfl, hf first, fun hnone => absurd (hfirst ▸ hcall) (hnone m)⟩
      | succ k => exact ⟨it, hit, rfl, fun _ => rfl⟩
    · rw [if_neg hfirst]
      refine ⟨congrArg (· + 1) ih.length, ?_⟩
      intro k it hit
      cases k with
      | zero => exact ⟨it, hit, rfl, fun _ => rfl⟩
      | succ k => exact ih.item k it hit

/-- Without any call, all items are as they were. -/
theorem eq_of_no_call (h : AccountsFor entries items items')
    (hnone : ∀ ref m, .call ref m ∉ entries) : items' = items := by
  refine List.ext_getElem? fun k => ?_
  cases hit : items[k]? with
  | none =>
    rw [List.getElem?_eq_none_iff, h.length]
    exact List.getElem?_eq_none_iff.1 hit
  | some it =>
    obtain ⟨it', hit', -, hsame⟩ := h.item k it hit
    rw [hit', hsame (hnone it.issue.reference)]

end AccountsFor

variable {w : World} {α β : Type}

/-- What a computation adds to the trail accounts for what becomes of the items. -/
def Accounted (x : StateM World α) : Prop :=
  ∀ w, ∃ added, (x w).2.trail = w.trail ++ added ∧ AccountsFor added w.items (x w).2.items

theorem accounted_pure (a : α) : Accounted (pure a) := fun w =>
  ⟨[], (List.append_nil _).symm, .refl [] w.items⟩

theorem Accounted.bind {x : StateM World α} {k : α → StateM World β} (hx : Accounted x)
    (hk : ∀ a, Accounted (k a)) : Accounted (x >>= k) := by
  intro w
  obtain ⟨added, htrail, hitems⟩ := hx w
  obtain ⟨added', htrail', hitems'⟩ := hk (x w).1 (x w).2
  refine ⟨added ++ added', ?_, ?_⟩
  · rw [bind_apply, htrail', htrail, List.append_assoc]
  · exact hitems.append hitems'

/-- What follows an operation that may fail is looked at for failure and for success. -/
theorem Accounted.bind_except {ε : Type} {x : StateM World (Except ε α)}
    {k : Except ε α → StateM World β} (hx : Accounted x) (herror : ∀ e, Accounted (k (.error e)))
    (hok : ∀ a, Accounted (k (.ok a))) : Accounted (x >>= k) := by
  refine hx.bind fun result => ?_
  cases result with
  | error e => exact herror e
  | ok a => exact hok a

theorem accounted_observe (e : Event) : Accounted (tracker.observe e) := fun w =>
  ⟨[.seen e], rfl, .refl _ w.items⟩

theorem accounted_openIssues (r : RepositoryId) : Accounted (tracker.openIssues r) := fun w =>
  ⟨[], (List.append_nil _).symm, .refl [] w.items⟩

theorem accounted_signalsFor (settings : Settings) (i : Issue) :
    Accounted (Manager.signalsFor tracker settings i) := by
  intro w
  rw [signalsFor_apply]
  exact ⟨[], (List.append_nil _).symm, .refl [] w.items⟩

theorem accounted_mutate (ref : IssueRef) (m : Mutation) : Accounted (tracker.mutate ref m) := by
  intro w
  refine ⟨[.call ref m], ?_⟩
  show (w.mutate ref m).2.trail = _ ∧ AccountsFor _ _ (w.mutate ref m).2.items
  unfold World.mutate
  dsimp only
  split
  · exact ⟨rfl, .refl _ w.items⟩
  · exact ⟨rfl, .updateFirst (fun it => it.mutate_reference m) List.mem_cons_self w.items⟩

section

variable (settings : Settings) (p : PolicyRecord) (now : Instant) (dryRun : Bool)

theorem accounted_applyActions (ref : IssueRef) (as : List Action) :
    Accounted (Manager.applyActions tracker ref dryRun as) := by
  induction as with
  | nil => exact accounted_pure _
  | cons a as ih =>
    have hfailed (e : ServiceError) : Accounted (pure (.error (.actionApply ref a e)) :
        StateM World (Except LifecycleError Unit)) := accounted_pure _
    have hdone := (accounted_observe (.action ref a dryRun)).bind fun _ => ih
    rw [Manager.applyActions]
    split
    · exact (accounted_pure (Except.ok ())).bind_except hfailed fun _ => hdone
    · exact (accounted_mutate ref _).bind_except hfailed fun _ => hdone

theorem accounted_processIssue (i : Issue) :
    Accounted (Manager.processIssue tracker settings p now dryRun i) := by
  rw [Manager.processIssue]
  refine (accounted_signalsFor settings i).bind_except (fun _ => accounted_pure _) fun s => ?_
  refine (accounted_observe _).bind fun _ => ?_
  exact (accounted_applyActions dryRun i.reference _).bind_except (fun _ => accounted_pure _)
    fun _ => accounted_pure _

theorem accounted_processIssues (report : RepositoryReport) (issues : List Issue) :
    Accounted (Manager.processIssues tracker settings p now dryRun report issues) := by
  induction issues generalizing report with
  | nil => exact accounted_pure _
  | cons i rest ih =>
    rw [Manager.processIssues]
    refine (accounted_processIssue settings p now dryRun i).bind_except ?_ fun _ => ih _
    exact fun e => (accounted_observe _).bind fun _ => ih _

theorem accounted_sweepRepository (registry : Registry) (r : RepositoryId) :
    Accounted (Manager.sweepRepository tracker settings registry now dryRun r) := by
  rw [Manager.sweepRepository]
  cases registry.recordFor r with
  | none => exact (accounted_observe _).bind fun _ => accounted_pure _
  | some p =>
    refine (accounted_openIssues r).bind_except ?_ fun issues => ?_
    · exact fun e => (accounted_observe _).bind fun _ => accounted_pure _
    · refine (accounted_processIssues settings p now dryRun _ issues).bind fun report => ?_
      exact (accounted_observe _).bind fun _ => accounted_pure _

/-- What the trail says about a repository that is swept alone accounts for its items. -/
theorem sweepRepository_accountsFor (registry : Registry) (r : RepositoryId) (w : World) :
    AccountsFor (w.repositoryTrail settings registry now dryRun r) w.items
      (Manager.sweepRepository tracker settings registry now dryRun r w).2.items := by
  obtain ⟨added, htrail, hitems⟩ := accounted_sweepRepository settings now dryRun registry r w
  have halone := (sweepRepository_yields settings now dryRun registry r w).trail
  rw [htrail] at halone
  rwa [List.append_cancel_left halone] at hitems

end

/-- However the repositories are interleaved, what the trail says about a repository accounts for
the items of the repository. -/
theorem run_sweepAll_accountsFor {registry : Registry} {pool : Pool (Fiber World)}
    (hpool : pool.Lawful) (settings : Settings) (hr : registry.repositories.Nodup) (dryRun : Bool)
    (t : Timeline World) {r : RepositoryId} {k : Nat} {it : WorldItem}
    (hit : t.state.items[k]? = some it) (hown : it.issue.reference.repository = r)
    (hnone : r ∈ registry.repositories → ∀ m, .call it.issue.reference m ∉
      t.state.repositoryTrail settings registry t.state.now dryRun r) :
    ((Manager.sweepAll tracker.steps pool settings registry dryRun).run t).2.state.items[k]? =
      some it := by
  have hitems := congrArg Share.items ((run_sweepAll hpool settings hr dryRun t).2 r)
  have hat := congrArg (fun items : List (Option WorldItem) => items[k]?) hitems
  -- The item at the same place in the share of the repository after the sweep.
  have hafter : ((Manager.sweepAll tracker.steps pool settings registry dryRun).run
      t).2.state.items[k]?.map (WorldItem.owned? r) = some (some it) := by
    have howned : it.owned? r = some it := WorldItem.owned?_eq_some.2 ⟨hown, rfl⟩
    split at hat
    · next hmem =>
      obtain ⟨it', hit', -, hsame⟩ :=
        (sweepRepository_accountsFor settings t.state.now dryRun registry r t.state).item k it hit
      obtain rfl := hsame (hnone hmem)
      simpa [share, hit', howned] using hat
    · simpa [share, hit, howned] using hat
  obtain ⟨it', hit', howned⟩ := Option.map_eq_some_iff.1 hafter
  rw [hit', (WorldItem.owned?_eq_some.1 howned).2]

end Upkeep.World
