import Upkeep.Proofs.Decision.Closing
import Upkeep.Proofs.World.Actions
/-!
# The order of actions

The actions of a decision do not get into each other's way, even where roles share a label
(`evaluate_conflictFree`): what a decision adds is not there, and what it removes is. So it does
not matter in which order they are carried out (`actAll_alike`, `actions_in_any_order`).
-/

namespace Upkeep

/-- The actions of a decision on an item do not get into each other's way. -/
structure Decision.ConflictFree (i : Issue) (d : Decision) : Prop where
  adds : ∀ l, .addLabel l ∈ d.actions → l ≠ "" ∧ l ∉ i.labels
  removes : ∀ l, .removeLabel l ∈ d.actions → l ≠ "" ∧ l ∈ i.labels
  labels : ∀ l, ¬ (.addLabel l ∈ d.actions ∧ .removeLabel l ∈ d.actions)
  closes : d.actions.count .close ≤ 1
  comments : (d.actions.filter Action.isComment).length ≤ 1

/-- Two items carry the same labels and the same comment, and are both open or both closed. -/
structure WorldItem.Alike (a b : WorldItem) : Prop where
  labels : ∀ l, l ∈ a.issue.labels ↔ l ∈ b.issue.labels
  state : a.issue.state = b.issue.state
  botComment : a.botComment = b.botComment

/-! ## Decisions are free of conflicts -/

namespace Decision

variable {i : Issue} {p : PolicyRecord} {s : Signals} {now : Instant}

theorem count_close_le_one : (evaluate i p s now).actions.count .close ≤ 1 := by
  by_cases h : DueForClosing i p s now
  · exact (evaluate_of_due h).once.le
  · rw [List.count_eq_zero.2 (evaluate_of_not_due h).never]
    exact Nat.zero_le 1

theorem length_filter_isComment_le_one :
    ((evaluate i p s now).actions.filter Action.isComment).length ≤ 1 := by
  obtain ⟨c, -, hc⟩ := filter_isComment_plan i p s now
  rw [evaluate_actions]
  exact ((List.filter_sublist.filter _).trans hc).length_le

theorem evaluate_conflictFree (i : Issue) (p : PolicyRecord) (s : Signals) (now : Instant) :
    (evaluate i p s now).ConflictFree i := by
  have adds (l : String) (h : .addLabel l ∈ (evaluate i p s now).actions) :
      l ≠ "" ∧ l ∉ i.labels := by
    have hpend := (mem_actions.1 h).2
    simpa [Action.isPending] using hpend
  have removes (l : String) (h : .removeLabel l ∈ (evaluate i p s now).actions) :
      l ≠ "" ∧ l ∈ i.labels := by
    have hpend : i.hasLabel l = true := (mem_actions.1 h).2
    exact Issue.hasLabel_iff.1 hpend
  exact ⟨adds, removes, fun l h => (adds l h.1).2 (removes l h.2).2, count_close_le_one,
    length_filter_isComment_le_one⟩

end Decision

/-! ## On one item -/

namespace WorldItem

variable {it : WorldItem} {l : String}

theorem mem_labels_act {a : Action} : l ∈ (it.act a).issue.labels ↔
    (l ∈ it.issue.labels ∧ a ≠ .removeLabel l) ∨ a = .addLabel l := by
  cases a with
  | addLabel m =>
    have hsame : Action.addLabel m = .addLabel l ↔ l = m := by
      rw [Action.addLabel.injEq, eq_comm]
    rw [act_addLabel]
    split
    · next h =>
      simp only [hsame, ne_eq, reduceCtorEq, not_false_eq_true, and_true]
      exact (or_iff_left_of_imp fun e => e ▸ h).symm
    · simp [Issue.apply, hsame]
  | removeLabel m =>
    have hsame : Action.removeLabel m = .removeLabel l ↔ l = m := by
      rw [Action.removeLabel.injEq, eq_comm]
    simp [act, Mutation.ofAction, mutate, Issue.apply, hsame]
  | _ => simp [act, Mutation.ofAction, mutate, Issue.apply]

/-- Actions that do not both add and remove a label put it there, or take it away, or leave it as
it is. -/
theorem mem_labels_actAll {as : List Action} (h : ¬ (.addLabel l ∈ as ∧ .removeLabel l ∈ as)) :
    l ∈ (it.actAll as).issue.labels ↔
      (l ∈ it.issue.labels ∧ .removeLabel l ∉ as) ∨ .addLabel l ∈ as := by
  induction as generalizing it with
  | nil => simp
  | cons a as ih =>
    have htail : ¬ (.addLabel l ∈ as ∧ .removeLabel l ∈ as) :=
      fun hboth => h ⟨List.mem_cons_of_mem _ hboth.1, List.mem_cons_of_mem _ hboth.2⟩
    rw [actAll_cons, ih htail, mem_labels_act]
    simp only [List.mem_cons, eq_comm (b := a)] at h ⊢
    tauto

/-- Which actions there are decides what they leave, if they do not get into each other's way. -/
theorem actAll_alike {as bs : List Action} {c : Action} (hmem : ∀ a, a ∈ bs ↔ a ∈ as)
    (hlabels : ∀ l, ¬ (.addLabel l ∈ as ∧ .removeLabel l ∈ as)) (hc : c.isComment = true)
    (hcomment : ∀ a ∈ as, a.isComment = true → a = c) : (it.actAll bs).Alike (it.actAll as) where
  labels l := by
    have hbs : ¬ (.addLabel l ∈ bs ∧ .removeLabel l ∈ bs) := by
      rw [hmem, hmem]
      exact hlabels l
    rw [mem_labels_actAll hbs, mem_labels_actAll (hlabels l), hmem, hmem]
  state := by simp only [actAll_state, hmem]
  botComment := by
    rw [actAll_botComment hc fun a ha => hcomment a ((hmem a).1 ha), actAll_botComment hc hcomment]
    simp only [hmem]

end WorldItem

/-! ## In a world -/

namespace World

variable {w : World} {ref : IssueRef} {it : WorldItem}

/-- A world that refuses none of the actions carries them out. -/
theorem applyActions_of_not_refused {as : List Action} (hit : w.item? ref = some it)
    (h : ∀ a ∈ as, w.refusal ref a = none) :
    ∃ w', Manager.applyActions tracker ref false as w = (.ok (), w') ∧
      w'.item? ref = some (it.actAll as) := by
  have hok : (Manager.applyActions tracker ref false as w).1 = .ok () := by
    clear hit
    induction as generalizing w with
    | nil => rfl
    | cons a as ih =>
      rw [applyActions_cons, h a List.mem_cons_self]
      exact ih fun b hb => h b (List.mem_cons_of_mem _ hb)
  refine ⟨_, Prod.ext hok rfl, ?_⟩
  rw [item?, applyActions_items, accepted_eq_self h,
    find?_updateFirst (fun it => it.actAll_reference _) ref w.items]
  exact congrArg (Option.map (·.actAll as)) hit

/-- The actions of a decision are free of conflicts, whichever labels coincide, and leave items
that are alike when they are carried out in different orders. So does the manager in a world that
refuses none of them. -/
theorem actions_in_any_order (it : WorldItem) (p : PolicyRecord) (s : Signals) (now : Instant) :
    (evaluate it.issue p s now).ConflictFree it.issue ∧
    ∀ as : List Action, as.Perm (evaluate it.issue p s now).actions →
      (it.actAll as).Alike (it.actAll (evaluate it.issue p s now).actions) ∧
      ∀ (w : World) (ref : IssueRef), w.item? ref = some it →
        (∀ a ∈ as, w.refusal ref a = none) →
        ∃ w₁ w₂ a b,
          Manager.applyActions tracker ref false as w = (.ok (), w₁) ∧
          Manager.applyActions tracker ref false (evaluate it.issue p s now).actions w =
            (.ok (), w₂) ∧
          w₁.item? ref = some a ∧ w₂.item? ref = some b ∧ a.Alike b := by
  have hfree := Decision.evaluate_conflictFree it.issue p s now
  refine ⟨hfree, fun as hperm => ?_⟩
  have halike : (it.actAll as).Alike (it.actAll (evaluate it.issue p s now).actions) := by
    obtain ⟨c, hc, hplan⟩ := Decision.filter_isComment_plan it.issue p s now
    refine WorldItem.actAll_alike (fun _ => hperm.mem_iff) hfree.labels hc fun a ha hcomment => ?_
    have hmem := List.mem_filter.2 ⟨(Decision.mem_actions.1 ha).1, hcomment⟩
    exact List.mem_singleton.1 (hplan.subset hmem)
  refine ⟨halike, fun w ref hit h => ?_⟩
  obtain ⟨w₁, hrun₁, hitem₁⟩ := applyActions_of_not_refused hit h
  obtain ⟨w₂, hrun₂, hitem₂⟩ := applyActions_of_not_refused hit
    fun a ha => h a (hperm.mem_iff.2 ha)
  exact ⟨w₁, w₂, _, _, hrun₁, hrun₂, hitem₁, hitem₂, halike⟩

/-- Items that wait for an answer and items that got none in time have the same label. -/
def unansweredPolicy : PolicyRecord :=
  { escalationLabel := "unanswered", closeLabel := "unanswered" }

/-- A pull request of high priority that nobody has commented on. -/
def unansweredItem : WorldItem :=
  { issue := ⟨⟨⟨"istio", "istio"⟩, 4⟩, true, .clamp 0, .opened, [], ""⟩
    botComment := some "Closing soon." }

/-- The decision on it after ninety days. -/
def lastWord : Decision :=
  evaluate unansweredItem.issue unansweredPolicy ⟨none, none, some ⟨"P0"⟩⟩
    (.clamp (90 * nanosPerDay))

theorem actions_in_any_order_reversed :
    ¬ unansweredPolicy.DistinctLabels ∧
      lastWord.actions =
        [.addLabel "unanswered", .close, .removeComment, .addLabel "unanswered"] ∧
      (unansweredItem.actAll lastWord.actions.reverse).Alike
        (unansweredItem.actAll lastWord.actions) := by
  have hany := actions_in_any_order unansweredItem unansweredPolicy ⟨none, none, some ⟨"P0"⟩⟩
    (.clamp (90 * nanosPerDay))
  exact ⟨by decide, by decide, (hany.2 _ (List.reverse_perm _)).1⟩

end World

end Upkeep
