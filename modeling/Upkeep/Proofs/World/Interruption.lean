import Upkeep.Proofs.World.Actions
/-!
# What an interrupted decision leaves for the next one

When the actions of a decision are carried out up to some point, the next decision on the item has
all the actions that are left, unless the item was closed by then (`rederived_iff`). Closing comes
before the comment and the label that go with it, and the next decision on a closed item knows
nothing of them.
-/

namespace Upkeep.Decision

variable {i : Issue} {p : PolicyRecord} {s : Signals} {now : Instant}

/-- Labels are added by actions only. -/
theorem mem_labels_of_mem_applyAll {i : Issue} {as : List Action} {l : String}
    (h : l ∈ (i.applyAll as).labels) : l ∈ i.labels ∨ .addLabel l ∈ as := by
  induction as generalizing i with
  | nil => exact .inl h
  | cons a as ih =>
    rw [Issue.applyAll_cons] at h
    rcases ih h with h | h
    · cases a with
      | addLabel m =>
        rcases List.mem_append.1 h with h | h
        · exact .inl h
        · exact .inr (List.mem_singleton.1 h ▸ List.mem_cons_self)
      | removeLabel m => exact .inl (List.mem_filter.1 h).1
      | _ => exact .inl h
    · exact .inr (List.mem_cons_of_mem _ h)

/-- Carrying out pending actions of the plan does not make the item ignored. -/
theorem isIgnored_applyAll {as : List Action} (hi : p.LabelsNotIgnored)
    (has : ∀ a ∈ as, a ∈ plan i p s now ∧ a.isPending i = true) (h : i.isIgnored p = false) :
    (i.applyAll as).isIgnored p = false := by
  rw [Issue.isIgnored, List.any_eq_false] at h ⊢
  intro l hl
  rcases mem_labels_of_mem_applyAll hl with hl | hl
  · exact h l hl
  · obtain ⟨hplan, hpend⟩ := has _ hl
    obtain ⟨r, -, -, hon⟩ := plan_isOn hplan
    obtain rfl := hon l rfl
    simp [hi r (Action.ne_empty_of_isPending hpend rfl)]

/-- Nothing in the plan after closing takes a label away. -/
theorem plan_pairwise_close (i : Issue) (p : PolicyRecord) (s : Signals) (now : Instant) :
    (plan i p s now).Pairwise fun a b => a = .close → ∀ l, b ≠ .removeLabel l := by
  have off {as : List Action} (h : ∀ a ∈ as, a.label? ≠ none) (bs : List Action) :
      ∀ a ∈ as, ∀ b ∈ bs, a = .close → ∀ l, b ≠ .removeLabel l := by
    rintro _ ha b - rfl
    exact absurd rfl (h _ ha)
  rcases plan_cases i p s now with h | ⟨front, hf, h⟩
  · exact List.pairwise_of_forall_mem_list (off h _)
  · rw [h]
    refine List.pairwise_append.2 ⟨List.pairwise_of_forall_mem_list (off hf _), ?_, off hf _⟩
    rcases ageingPlan_cases i p (reference i s) now with e | ⟨c, hc, e⟩ | ⟨c, hc, e⟩ <;> rw [e]
    · simp
    · have hr (l : String) : c ≠ .removeLabel l := by rintro rfl; cases hc
      simp [hr]
    · have hcl : c ≠ .close := by rintro rfl; cases hc
      simp [hcl]

/-- What the actions done so far leave undone is still pending after them. -/
theorem isPending_drop {as : List Action} (hp : as.Pairwise Action.Apart)
    (has : ∀ a ∈ as, a.isPending i = true) (k : Nat) :
    ∀ a ∈ as.drop k, a.isPending (i.applyAll (as.take k)) = true := by
  intro a ha
  rw [← List.take_append_drop k as, List.pairwise_append] at hp
  have hpend := has a (List.mem_of_mem_drop ha)
  rw [← hpend]
  refine Action.isPending_congr fun l hl => Issue.mem_labels_applyAll_of_ne fun b hb hbl => ?_
  exact Action.ne_empty_of_isPending hpend hl (hp.2.2 b hb a ha l hbl hl)

/-- The next decision has all that is left of a decision, unless the item was closed by what was
done of it. -/
theorem rederived_iff (hp : p.DistinctLabels) (hi : p.LabelsNotIgnored) {k : Nat}
    (hk : k < (evaluate i p s now).actions.length) :
    (∀ a ∈ (evaluate i p s now).actions.drop k,
        a ∈ (evaluate (i.applyAll ((evaluate i p s now).actions.take k)) p s now).actions) ↔
      .close ∉ (evaluate i p s now).actions.take k := by
  have hplan : ∀ a ∈ (evaluate i p s now).actions, a ∈ plan i p s now ∧ a.isPending i = true :=
    fun _ ha => mem_actions.1 ha
  have happart := actions_pairwise_apart hp i s now
  have hafter : (evaluate i p s now).actions.Pairwise
      fun a b => a = .close → ∀ l, b ≠ .removeLabel l := by
    rw [evaluate_actions]
    exact (plan_pairwise_close i p s now).filter _
  generalize (evaluate i p s now).actions = as at hk hplan happart hafter
  have hdone : ∀ a ∈ as.take k, a ∈ plan i p s now ∧ a.isPending i = true :=
    fun a ha => hplan a (List.mem_of_mem_take ha)
  constructor
  -- The first action left undone comes after closing, so that it removes no label; the decision on
  -- a closed item does nothing else.
  · intro h hclose
    have hnext : as[k] ∈ as.drop k := List.drop_eq_getElem_cons hk ▸ List.mem_cons_self
    have hleft := h _ hnext
    rw [← List.take_append_drop k as, List.pairwise_append] at hafter
    have hkeeps := hafter.2.2 _ hclose _ hnext rfl
    rcases mem_plan_closed (by rw [Issue.applyAll_state, if_pos hclose])
      (mem_actions.1 hleft).1 with hl | hl <;> exact hkeeps _ hl
  -- The plan is as it was, and what is left of it is still pending.
  · intro hclose a ha
    have hmem := hplan a (List.mem_of_mem_drop ha)
    have hopen := not_isIgnored_of_mem_plan hmem.1
    rw [mem_actions, plan_applyAll hp (fun b hb => (hdone b hb).1) hclose
      ((isIgnored_applyAll hi hdone hopen).trans hopen.symm)]
    exact ⟨hmem.1, isPending_drop happart (fun b hb => (hplan b hb).2) k a ha⟩

end Upkeep.Decision

/-! ## Interruptions in a world -/

namespace Upkeep.World

/-- A world refuses an action of a decision after it has carried out those before. The decision on
the item that is left has everything that was not done, unless the item was closed by then. -/
theorem undone_rederived_iff {w : World} {ref : IssueRef} {it : WorldItem} {p : PolicyRecord}
    {s : Signals} {now : Instant} {k : Nat} {e : ServiceError} (hit : w.item? ref = some it)
    (hp : p.DistinctLabels) (hi : p.LabelsNotIgnored)
    (hk : k < (evaluate it.issue p s now).actions.length)
    (hdone : ∀ a ∈ (evaluate it.issue p s now).actions.take k, w.refusal ref a = none)
    (hfail : w.refusal ref (evaluate it.issue p s now).actions[k] = some e) :
    ∃ w' left,
      Manager.applyActions tracker ref false (evaluate it.issue p s now).actions w =
        (.error (.actionApply ref (evaluate it.issue p s now).actions[k] e), w') ∧
      w'.item? ref = some left ∧
      left.issue = it.issue.applyAll ((evaluate it.issue p s now).actions.take k) ∧
      ((∀ a ∈ (evaluate it.issue p s now).actions.drop k,
          a ∈ (evaluate left.issue p s now).actions) ↔
        .close ∉ (evaluate it.issue p s now).actions.take k) := by
  have happart := Decision.actions_pairwise_apart hp it.issue s now
  have hpend : ∀ a ∈ (evaluate it.issue p s now).actions, a.isPending it.issue = true :=
    fun _ ha => (Decision.mem_actions.1 ha).2
  have hiff := Decision.rederived_iff hp hi hk
  generalize (evaluate it.issue p s now).actions = as at *
  obtain ⟨herr, hacc⟩ := applyActions_refused hk hdone hfail
  have hleft : (it.actAll (as.take k)).issue = it.issue.applyAll (as.take k) :=
    WorldItem.actAll_issue (happart.sublist (List.take_sublist k as))
      fun a ha => hpend a (List.mem_of_mem_take ha)
  refine ⟨_, it.actAll (as.take k), Prod.ext herr rfl, ?_, hleft, hleft ▸ hiff⟩
  rw [item?, applyActions_items, hacc,
    find?_updateFirst (fun it => it.actAll_reference _) ref w.items]
  exact congrArg (Option.map (·.actAll (as.take k))) hit

/-- A pull request that nobody has touched since it was opened. -/
def quietItem : WorldItem :=
  { issue := ⟨⟨⟨"istio", "istio"⟩, 2⟩, true, .clamp 0, .opened, [], ""⟩ }

/-- Closing comes with a comment and a label. -/
def farewellPolicy : PolicyRecord := { closeComment := "Closing.", closeLabel := "inactive" }

/-- Ninety days later, in a world that takes no comments. -/
def muteWorld : World :=
  { items := [quietItem]
    failures := [⟨"upsert_comment", "*", none, .transport "no route"⟩]
    now := .clamp (90 * nanosPerDay) }

/-- The decision on the quiet item in the mute world. -/
def farewell : Decision := evaluate quietItem.issue farewellPolicy .unknown muteWorld.now

theorem undone_rederived_iff_farewell :
    muteWorld.refusal quietItem.issue.reference farewell.actions[1] = some (.transport "no route") ∧
      ∃ w' left,
        Manager.applyActions tracker quietItem.issue.reference false farewell.actions muteWorld =
          (.error (.actionApply quietItem.issue.reference farewell.actions[1]
            (.transport "no route")), w') ∧
        w'.item? quietItem.issue.reference = some left ∧
        left.issue = quietItem.issue.applyAll (farewell.actions.take 1) ∧
        ((∀ a ∈ farewell.actions.drop 1,
            a ∈ (evaluate left.issue farewellPolicy .unknown muteWorld.now).actions) ↔
          .close ∉ farewell.actions.take 1) :=
  ⟨by decide, undone_rederived_iff (by decide) (by decide) (by decide) (by decide) (by decide)
    (by decide)⟩

/-- The comment and the label that go with closing are lost: the decision on the item that is left
is to do nothing. -/
theorem farewell_lost :
    quietItem.issue.state = .opened ∧ farewellPolicy.DistinctLabels ∧
      farewellPolicy.LabelsNotIgnored ∧
      farewell.actions = [.close, .postComment .closing "Closing.", .addLabel "inactive"] ∧
      (Manager.applyActions tracker quietItem.issue.reference false farewell.actions muteWorld).1 =
        .error (.actionApply quietItem.issue.reference (.postComment .closing "Closing.")
          (.transport "no route")) ∧
      ((Manager.applyActions tracker quietItem.issue.reference false farewell.actions
          muteWorld).2.item? quietItem.issue.reference).map
        (fun left => (evaluate left.issue farewellPolicy .unknown muteWorld.now).actions) =
          some [] := by
  decide

end Upkeep.World
