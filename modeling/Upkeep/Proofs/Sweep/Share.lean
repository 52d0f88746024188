import Upkeep.Proofs.Fiber.Independence
import Upkeep.Proofs.World.Actions
import Mathlib.Data.List.ReduceOption
/-!
# A repository and its share of a world

The manager is carried out in steps, one for each operation of the tracker (`Tracker.steps`), so
that the repositories under way can be interleaved. The steps of one repository stay in its share
of the world (`sweepRepository_carriesOut`): its items, its part of the trail, and the setting,
which nobody changes.
-/

namespace Upkeep

/-- The operations of a tracker, each of them one step. -/
def Tracker.steps {σ : Type} (tracker : Tracker (StateM σ)) : Tracker (Fiber σ) where
  openIssues r := Fiber.update (tracker.openIssues r)
  issue ref := Fiber.update (tracker.issue ref)
  signals limit i := Fiber.update (tracker.signals limit i)
  mutate ref m := Fiber.update (tracker.mutate ref m)
  now := Fiber.update tracker.now
  observe e := Fiber.update (tracker.observe e)

namespace Fiber

variable {σ α β ι τ : Type} {share : ι → σ → τ} {r : ι}

/-- Carried out alone, the fiber does to the state what a computation on the state does. -/
def Does (f : Fiber σ α) (x : StateM σ α) : Prop :=
  ∀ t, f.run t = ((x t.state).1, { t with state := (x t.state).2 })

theorem does_pure (a : α) : Does (pure a : Fiber σ α) (pure a) := fun _ => rfl

theorem does_update (x : StateM σ α) : Does (update x) x := fun _ => rfl

theorem Does.bind {f : Fiber σ α} {x : StateM σ α} {k : α → Fiber σ β} {l : α → StateM σ β}
    (hf : f.Does x) (hk : ∀ a, (k a).Does (l a)) : Does (f >>= k) (x >>= l) := by
  intro t
  rw [run_bind, hf t, hk]
  rfl

/-- The fiber is a computation on the state in steps that stay in a share. -/
structure CarriesOut (share : ι → σ → τ) (r : ι) (f : Fiber σ α) (x : StateM σ α) : Prop where
  does : f.Does x
  stays : StaysIn share r f

theorem carriesOut_pure (a : α) : CarriesOut share r (pure a : Fiber σ α) (pure a) :=
  ⟨does_pure a, staysIn_pure a⟩

theorem CarriesOut.bind {f : Fiber σ α} {x : StateM σ α} {k : α → Fiber σ β}
    {l : α → StateM σ β} (hf : CarriesOut share r f x) (hk : ∀ a, CarriesOut share r (k a) (l a)) :
    CarriesOut share r (f >>= k) (x >>= l) :=
  ⟨hf.does.bind fun a => (hk a).does, hf.stays.bind fun a => (hk a).stays⟩

/-- What follows an operation that may fail is looked at for failure and for success. -/
theorem CarriesOut.bind_except {ε : Type} {f : Fiber σ (Except ε α)} {x : StateM σ (Except ε α)}
    {k : Except ε α → Fiber σ β} {l : Except ε α → StateM σ β} (hf : CarriesOut share r f x)
    (herror : ∀ e, CarriesOut share r (k (.error e)) (l (.error e)))
    (hok : ∀ a, CarriesOut share r (k (.ok a)) (l (.ok a))) :
    CarriesOut share r (f >>= k) (x >>= l) := by
  refine hf.bind fun res => ?_
  cases res with
  | error e => exact herror e
  | ok a => exact hok a

theorem ActsIn.carriesOut {x : StateM σ α} (hx : ActsIn share r x) :
    CarriesOut share r (Fiber.update x) x :=
  ⟨does_update x, hx.update⟩

theorem ActsIn.carriesOut_bind {x : StateM σ α} {k : α → Fiber σ β} {l : α → StateM σ β}
    (hx : ActsIn share r x) (hk : ∀ s, CarriesOut share r (k (x s).1) (l (x s).1)) :
    CarriesOut share r (Fiber.update x >>= k) (x >>= l) :=
  ⟨fun t => (hk t.state).does _, hx.update_bind fun s => (hk s).stays⟩

end Fiber

/-! ## The share of a repository -/

/-- What a repository has to do with in a world. -/
structure Share where
  setting : World
  /-- The items of the repository, at their positions among all items. -/
  items : List (Option WorldItem)
  trail : List TrailEntry

/-- The item if it belongs to the repository. -/
def WorldItem.owned? (r : RepositoryId) (it : WorldItem) : Option WorldItem :=
  if it.issue.reference.repository = r then some it else none

theorem WorldItem.owned?_eq_some {r : RepositoryId} {it other : WorldItem} :
    it.owned? r = some other ↔ it.issue.reference.repository = r ∧ it = other := by
  simp [owned?]

theorem WorldItem.owned?_eq_none {r : RepositoryId} {it : WorldItem} :
    it.owned? r = none ↔ it.issue.reference.repository ≠ r := by
  simp [owned?]

namespace World

def share (r : RepositoryId) (w : World) : Share where
  setting := w.setting
  items := w.items.map (WorldItem.owned? r)
  trail := w.trail.filter (·.repository == r)

variable {w v : World} {r q : RepositoryId}

theorem share_eq_iff : w.share r = v.share r ↔ w.setting = v.setting ∧
    w.items.map (WorldItem.owned? r) = v.items.map (WorldItem.owned? r) ∧
    w.trail.filter (·.repository == r) = v.trail.filter (·.repository == r) := by
  simp only [share, Share.mk.injEq]

/-- Items are determined by those of each repository. -/
theorem items_eq_of_owned
    (h : ∀ r, w.items.map (WorldItem.owned? r) = v.items.map (WorldItem.owned? r)) :
    w.items = v.items := by
  refine List.ext_getElem? fun k => ?_
  have hget (r : RepositoryId) :
      w.items[k]?.map (WorldItem.owned? r) = v.items[k]?.map (WorldItem.owned? r) := by
    rw [← List.getElem?_map, ← List.getElem?_map, h r]
  cases hw : w.items[k]? with
  | none =>
    have hnone := hget default
    rw [hw, Option.map_none, eq_comm, Option.map_eq_none_iff] at hnone
    exact hnone.symm
  | some it =>
    have hsome := hget it.issue.reference.repository
    rw [hw, Option.map_some, WorldItem.owned?_eq_some.2 ⟨rfl, rfl⟩, eq_comm,
      Option.map_eq_some_iff] at hsome
    obtain ⟨other, hv, hother⟩ := hsome
    rw [hv, (WorldItem.owned?_eq_some.1 hother).2]

/-- The listing of a repository is a matter of its share. -/
theorem listed_eq (w : World) (r : RepositoryId) :
    w.listed r = (((w.share r).items.reduceOption).map WorldItem.issue).filter fun i =>
      (w.share r).setting.listClosed || i.state == .opened := by
  unfold listed share
  dsimp only
  induction w.items with
  | nil => rfl
  | cons it items ih =>
    by_cases h : it.issue.reference.repository = r
    · have hown : it.owned? r = some it := WorldItem.owned?_eq_some.2 ⟨h, rfl⟩
      simp only [List.map_cons, List.filter_cons, hown, List.reduceOption_cons_of_some, h,
        beq_self_eq_true, Bool.true_and, ih]
      rfl
    · have hown : it.owned? r = none := WorldItem.owned?_eq_none.2 h
      simp only [List.map_cons, List.filter_cons, hown, List.reduceOption_cons_of_none, ih]
      simp [h]

theorem repository_of_mem_listed {i : Issue} (h : i ∈ w.listed r) : i.reference.repository = r :=
  beq_iff_eq.1 (Bool.and_eq_true_iff.1 (List.mem_filter.1 h).2).1

theorem share_note_of_ne (entry : TrailEntry) (h : entry.repository ≠ q) :
    (w.note entry).share q = w.share q := by
  refine share_eq_iff.2 ⟨rfl, rfl, ?_⟩
  simp [note, h]

theorem share_note_congr (entry : TrailEntry) (h : w.share r = v.share r) :
    (w.note entry).share r = (v.note entry).share r := by
  obtain ⟨hset, hitems, htrail⟩ := share_eq_iff.1 h
  refine share_eq_iff.2 ⟨hset, hitems, ?_⟩
  simp only [note, List.filter_append, htrail]

section

variable {ref : IssueRef} {f : WorldItem → WorldItem}

theorem map_owned?_updateFirst_of_ne (hf : ∀ it, (f it).issue.reference = it.issue.reference)
    (h : ref.repository ≠ q) (items : List WorldItem) :
    (updateFirst ref f items).map (WorldItem.owned? q) = items.map (WorldItem.owned? q) := by
  induction items with
  | nil => rfl
  | cons it items ih =>
    unfold updateFirst
    split
    · next href =>
      have hout : it.issue.reference.repository ≠ q := href ▸ h
      simp [WorldItem.owned?, hf, hout]
    · rw [List.map_cons, List.map_cons, ih]

theorem map_owned?_updateFirst_congr {items others : List WorldItem}
    (h : items.map (WorldItem.owned? ref.repository) =
      others.map (WorldItem.owned? ref.repository)) :
    (updateFirst ref f items).map (WorldItem.owned? ref.repository) =
      (updateFirst ref f others).map (WorldItem.owned? ref.repository) := by
  induction items generalizing others with
  | nil =>
    rw [List.map_nil, eq_comm, List.map_eq_nil_iff] at h
    rw [h]
  | cons it items ih =>
    cases others with
    | nil => cases h
    | cons other others =>
      obtain ⟨hhead, htail⟩ := List.cons.inj h
      cases hit : it.owned? ref.repository with
      | none =>
        rw [hit] at hhead
        have hne (u : WorldItem) (hu : u.owned? ref.repository = none) : u.issue.reference ≠ ref :=
          fun hu' => WorldItem.owned?_eq_none.1 hu (by rw [hu'])
        rw [updateFirst, updateFirst, if_neg (hne it hit), if_neg (hne other hhead.symm),
          List.map_cons, List.map_cons, ih htail, hit, ← hhead]
      | some found =>
        rw [hit] at hhead
        obtain ⟨-, rfl⟩ := WorldItem.owned?_eq_some.1 hit
        obtain ⟨-, rfl⟩ := WorldItem.owned?_eq_some.1 hhead.symm
        rw [updateFirst, updateFirst]
        split
        · rw [List.map_cons, List.map_cons, htail]
        · rw [List.map_cons, List.map_cons, ih htail]

end

open Upkeep.Fiber

theorem actsIn_openIssues (r : RepositoryId) : ActsIn share r (tracker.openIssues r) where
  own s s' h := by
    have hset : s.setting = s'.setting := (share_eq_iff.1 h).1
    have hfail : s.failureOf = s'.failureOf := by rw [eq_of_setting hset]; rfl
    refine ⟨?_, h⟩
    show s.openIssues r = s'.openIssues r
    rw [openIssues, openIssues, listed_eq, listed_eq, h, hfail]
  others _ _ _ := rfl

theorem actsIn_signals (r : RepositoryId) (limit : Nat) (i : Issue) :
    ActsIn share r (tracker.signals limit i) where
  own s s' h := by
    refine ⟨?_, h⟩
    show s.signals limit i.reference = s'.signals limit i.reference
    rw [eq_of_setting (share_eq_iff.1 h).1]
    rfl
  others _ _ _ := rfl

theorem actsIn_observe (e : Event) : ActsIn share e.repository (tracker.observe e) where
  own _ _ h := ⟨rfl, share_note_congr (.seen e) h⟩
  others _ _ hq := share_note_of_ne (.seen e) hq.symm

theorem actsIn_mutate (ref : IssueRef) (m : Mutation) :
    ActsIn share ref.repository (tracker.mutate ref m) where
  own s s' h := by
    have hnote := share_note_congr (.call ref m) h
    have hset : s.setting = s'.setting := (share_eq_iff.1 h).1
    have hfail : (s.note (.call ref m)).failureOf = (s'.note (.call ref m)).failureOf := by
      rw [eq_of_setting hset]
      rfl
    show (s.mutate ref m).1 = (s'.mutate ref m).1 ∧
      (s.mutate ref m).2.share ref.repository = (s'.mutate ref m).2.share ref.repository
    unfold mutate
    dsimp only
    rw [hfail]
    split
    · exact ⟨rfl, hnote⟩
    · obtain ⟨-, hitems, htrail⟩ := share_eq_iff.1 hnote
      exact ⟨rfl, share_eq_iff.2
        ⟨hset, map_owned?_updateFirst_congr hitems, htrail⟩⟩
  others s q hq := by
    have hnote : (s.note (.call ref m)).share q = s.share q :=
      share_note_of_ne (.call ref m) hq.symm
    show (s.mutate ref m).2.share q = s.share q
    unfold mutate
    dsimp only
    split
    · exact hnote
    · obtain ⟨hset, hitems, htrail⟩ := share_eq_iff.1 hnote
      have hchange := map_owned?_updateFirst_of_ne (fun it => it.mutate_reference m) hq.symm s.items
      exact share_eq_iff.2 ⟨hset, hchange, htrail⟩

/-! ## The steps of a repository -/

variable (settings : Settings) (p : PolicyRecord) (now : Instant) (dryRun : Bool)

theorem applyActions_carriesOut (ref : IssueRef) (as : List Action) :
    CarriesOut share ref.repository (Manager.applyActions tracker.steps ref dryRun as)
      (Manager.applyActions tracker ref dryRun as) := by
  induction as with
  | nil => exact carriesOut_pure _
  | cons a as ih =>
    have hnoted := (actsIn_observe (.action ref a dryRun)).carriesOut.bind fun _ => ih
    cases dryRun with
    | true => exact (carriesOut_pure _).bind_except (fun _ => carriesOut_pure _) fun _ => hnoted
    | false =>
      exact (actsIn_mutate ref _).carriesOut.bind_except (fun _ => carriesOut_pure _)
        fun _ => hnoted

theorem processIssue_carriesOut (i : Issue) :
    CarriesOut share i.reference.repository
      (Manager.processIssue tracker.steps settings p now dryRun i)
      (Manager.processIssue tracker settings p now dryRun i) := by
  have hsignals : CarriesOut share i.reference.repository
      (Manager.signalsFor tracker.steps settings i) (Manager.signalsFor tracker settings i) := by
    unfold Manager.signalsFor
    split
    · exact carriesOut_pure _
    · exact (actsIn_signals _ _ i).carriesOut
  refine hsignals.bind_except (fun _ => carriesOut_pure _) fun s => ?_
  refine (actsIn_observe (.evaluated i.reference _)).carriesOut.bind fun _ => ?_
  exact (applyActions_carriesOut dryRun i.reference _).bind_except (fun _ => carriesOut_pure _)
    fun _ => carriesOut_pure _

theorem processIssues_carriesOut (report : RepositoryReport) {issues : List Issue}
    (h : ∀ i ∈ issues, i.reference.repository = r) :
    CarriesOut share r (Manager.processIssues tracker.steps settings p now dryRun report issues)
      (Manager.processIssues tracker settings p now dryRun report issues) := by
  induction issues generalizing report with
  | nil => exact carriesOut_pure _
  | cons i rest ih =>
    obtain rfl := h i List.mem_cons_self
    have hrest (report : RepositoryReport) :=
      ih report fun j hj => h j (List.mem_cons_of_mem _ hj)
    refine (processIssue_carriesOut settings p now dryRun i).bind_except (fun e => ?_)
      fun _ => hrest _
    exact (actsIn_observe (.failed i.reference e)).carriesOut.bind fun _ => hrest _

/-- Sweeping a repository stays in its share of the world. -/
theorem sweepRepository_carriesOut (registry : Registry) (r : RepositoryId) :
    CarriesOut share r (Manager.sweepRepository tracker.steps settings registry now dryRun r)
      (Manager.sweepRepository tracker settings registry now dryRun r) := by
  unfold Manager.sweepRepository
  cases registry.recordFor r with
  | none => exact (actsIn_observe (.skipped r _)).carriesOut.bind fun _ => carriesOut_pure _
  | some p =>
    -- That the listed items belong to the repository is known only of what this world lists.
    refine (actsIn_openIssues r).carriesOut_bind fun w => ?_
    rw [show (tracker.openIssues r w).1 = w.openIssues r from rfl, openIssues]
    cases w.failureOf .openIssues r.text none with
    | some e => exact (actsIn_observe (.skipped r _)).carriesOut.bind fun _ => carriesOut_pure _
    | none =>
      refine (processIssues_carriesOut settings p now dryRun _ fun i hi =>
        repository_of_mem_listed hi).bind fun report => ?_
      exact (actsIn_observe (.summary r report.stats)).carriesOut.bind fun _ => carriesOut_pure _

end World

end Upkeep
