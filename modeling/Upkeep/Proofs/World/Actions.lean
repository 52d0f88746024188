import Upkeep.Proofs.Decision.Plan
import Upkeep.Sweep.Manager
import Upkeep.World
import Mathlib.Data.List.Nodup
import Mathlib.Data.List.TakeWhile
/-!
# Actions on a world

The manager changes the items of a world and adds to its trail; everything else is the setting of
the world, which stays as it is. Carrying out a list of actions on an item does those of them
that come before the first one that the world refuses (`World.applyActions_items`).
-/

namespace Upkeep

/-! ## On one item -/

/-- The text of the comment that an action about the comment leaves. -/
def Action.comment? : Action → Option String
  | .postComment _ body => some (body ++ botSignature)
  | _ => none

namespace WorldItem

/-- The item after an action was carried out. -/
def act (it : WorldItem) (a : Action) : WorldItem := it.mutate (.ofAction a)

def actAll (it : WorldItem) (as : List Action) : WorldItem := as.foldl act it

@[simp] theorem actAll_nil (it : WorldItem) : it.actAll [] = it := rfl

@[simp] theorem actAll_cons (it : WorldItem) (a : Action) (as : List Action) :
    it.actAll (a :: as) = (it.act a).actAll as := rfl

/-- A label is not added twice. -/
theorem act_addLabel (it : WorldItem) (l : String) :
    it.act (.addLabel l) = if l ∈ it.issue.labels then it
      else { it with issue := it.issue.apply (.addLabel l) } := rfl

/-- Of the actions that would change something, none is skipped. -/
theorem act_issue {it : WorldItem} {a : Action} (h : a.isPending it.issue = true) :
    (it.act a).issue = it.issue.apply a := by
  cases a with
  | addLabel l =>
    simp only [Action.isPending, Bool.and_eq_true, Bool.not_eq_true', List.contains_eq_mem,
      decide_eq_false_iff_not] at h
    rw [act_addLabel, if_neg h.2]
  | _ => rfl

theorem mutate_reference (it : WorldItem) (m : Mutation) :
    (it.mutate m).issue.reference = it.issue.reference := by
  cases m with
  | addLabel l =>
    unfold mutate
    dsimp only
    split <;> rfl
  | _ => rfl

@[simp] theorem act_reference (it : WorldItem) (a : Action) :
    (it.act a).issue.reference = it.issue.reference :=
  it.mutate_reference _

@[simp] theorem actAll_reference (it : WorldItem) (as : List Action) :
    (it.actAll as).issue.reference = it.issue.reference := by
  induction as generalizing it with
  | nil => rfl
  | cons a as ih => rw [actAll_cons, ih, act_reference]

/-- An item takes actions that are pending and apart from each other as its issue does. -/
theorem actAll_issue {it : WorldItem} {as : List Action} (hap : as.Pairwise Action.Apart)
    (hpend : ∀ a ∈ as, a.isPending it.issue = true) :
    (it.actAll as).issue = it.issue.applyAll as := by
  induction as generalizing it with
  | nil => rfl
  | cons a as ih =>
    obtain ⟨hhead, htail⟩ := List.pairwise_cons.1 hap
    have ha := act_issue (hpend a List.mem_cons_self)
    rw [actAll_cons, Issue.applyAll_cons, ← ha]
    refine ih htail fun b hb => ?_
    have hb' := hpend b (List.mem_cons_of_mem _ hb)
    rw [← hb', ha]
    refine Action.isPending_congr fun l hl => ?_
    show l ∈ (it.issue.applyAll [a]).labels ↔ _
    refine Issue.mem_labels_applyAll_of_ne fun c hc hcl => ?_
    obtain rfl := List.mem_singleton.1 hc
    exact Action.ne_empty_of_isPending hb' hl (hhead b hb l hcl hl)

/-- Only closing changes the state. -/
theorem actAll_state (it : WorldItem) (as : List Action) :
    (it.actAll as).issue.state = if .close ∈ as then .closed else it.issue.state := by
  induction as generalizing it with
  | nil => rfl
  | cons a as ih =>
    rw [actAll_cons, ih]
    cases a with
    | addLabel l =>
      have h : (it.act (.addLabel l)).issue.state = it.issue.state := by
        rw [act_addLabel]
        split <;> rfl
      simp [h]
    | close =>
      have h : (it.act .close).issue.state = .closed := rfl
      simp [h]
    | _ => simp [act, Mutation.ofAction, mutate, Issue.apply]

variable {it : WorldItem}

theorem act_of_isComment {c : Action} (h : c.isComment = true) :
    it.act c = { it with botComment := c.comment? } := by
  cases c with
  | postComment _ _ => rfl
  | removeComment => rfl
  | _ => cases h

theorem act_botComment {a : Action} (h : a.isComment = false) :
    (it.act a).botComment = it.botComment := by
  cases a with
  | addLabel l =>
    rw [act_addLabel]
    split <;> rfl
  | removeLabel _ => rfl
  | close => rfl
  | _ => cases h

/-- The comment is the one that the only action about it leaves. -/
theorem actAll_botComment {as : List Action} {c : Action} (hc : c.isComment = true)
    (h : ∀ a ∈ as, a.isComment = true → a = c) :
    (it.actAll as).botComment = if c ∈ as then c.comment? else it.botComment := by
  induction as generalizing it with
  | nil => rfl
  | cons a as ih =>
    rw [actAll_cons, ih fun b hb => h b (List.mem_cons_of_mem _ hb)]
    cases ha : a.isComment with
    | true =>
      obtain rfl := h a List.mem_cons_self ha
      simp [act_of_isComment ha]
    | false =>
      have hne : c ≠ a := by rintro rfl; rw [hc] at ha; cases ha
      simp [act_botComment ha, hne]

end WorldItem

/-! ## On the items of a world -/

namespace World

variable {w v : World} {ref : IssueRef}

/-- The world without what the manager changes in it. -/
def setting (w : World) : World := { w with items := [], trail := [] }

theorem eq_of_setting (h : w.setting = v.setting) :
    w = { v with items := w.items, trail := w.trail } := by
  cases w
  cases v
  simp only [setting, mk.injEq, true_and, and_true] at h
  simp only [mk.injEq, true_and, and_true]
  exact h

/-- The item with a reference. -/
def item? (w : World) (ref : IssueRef) : Option WorldItem :=
  w.items.find? (·.issue.reference == ref)

/-- Why the world refuses an action on an item, if it does. -/
def refusal (w : World) (ref : IssueRef) (a : Action) : Option ServiceError :=
  w.failureOf (.ofMutation (.ofAction a)) ref.text (Mutation.ofAction a).argument?

/-- The actions that are carried out: those before the first that the world refuses. -/
def accepted (w : World) (ref : IssueRef) (as : List Action) : List Action :=
  as.takeWhile fun a => (w.refusal ref a).isNone

theorem accepted_eq_self {as : List Action} (h : ∀ a ∈ as, w.refusal ref a = none) :
    w.accepted ref as = as :=
  List.takeWhile_eq_self_iff.2 fun a ha => by rw [h a ha]; rfl

theorem updateFirst_id (ref : IssueRef) (items : List WorldItem) :
    updateFirst ref (fun it => it) items = items := by
  induction items with
  | nil => rfl
  | cons it items ih =>
    unfold updateFirst
    rw [ih, ite_self]

theorem updateFirst_updateFirst {f g : WorldItem → WorldItem}
    (hf : ∀ it, (f it).issue.reference = it.issue.reference) (ref : IssueRef)
    (items : List WorldItem) :
    updateFirst ref g (updateFirst ref f items) = updateFirst ref (fun it => g (f it)) items := by
  induction items with
  | nil => rfl
  | cons it items ih =>
    by_cases h : it.issue.reference = ref
    · simp [updateFirst, h, hf]
    · simp [updateFirst, h, ih]

theorem find?_updateFirst {f : WorldItem → WorldItem}
    (hf : ∀ it, (f it).issue.reference = it.issue.reference) (ref : IssueRef)
    (items : List WorldItem) :
    (updateFirst ref f items).find? (·.issue.reference == ref) =
      (items.find? (·.issue.reference == ref)).map f := by
  induction items with
  | nil => rfl
  | cons it items ih =>
    by_cases h : it.issue.reference = ref
    · simp [updateFirst, h, hf]
    · simp [updateFirst, h, ih]

/-! ## Carrying out actions -/

theorem bind_apply {α β : Type} (x : StateM World α) (k : α → StateM World β) (w : World) :
    (x >>= k) w = k (x w).1 (x w).2 := rfl

/-- An action that the world refuses ends the list, and one that it accepts is done and noted. -/
theorem applyActions_cons (w : World) (ref : IssueRef) (a : Action) (as : List Action) :
    Manager.applyActions tracker ref false (a :: as) w =
      match w.refusal ref a with
      | some e => (.error (.actionApply ref a e), w.note (.call ref (.ofAction a)))
      | none => Manager.applyActions tracker ref false as
          (((w.note (.call ref (.ofAction a))).change ref (.ofAction a)).note
            (.seen (.action ref a false))) := by
  have hm : tracker.mutate ref (.ofAction a) w = match w.refusal ref a with
      | some e => (.error e, w.note (.call ref (.ofAction a)))
      | none => (.ok (), (w.note (.call ref (.ofAction a))).change ref (.ofAction a)) := rfl
  rw [Manager.applyActions, if_neg Bool.false_ne_true, bind_apply, hm]
  cases w.refusal ref a <;> rfl

theorem applyActions_setting (w : World) (ref : IssueRef) (as : List Action) :
    (Manager.applyActions tracker ref false as w).2.setting = w.setting := by
  induction as generalizing w with
  | nil => rfl
  | cons a as ih =>
    rw [applyActions_cons]
    cases w.refusal ref a with
    | some e => rfl
    | none => exact ih _

theorem applyActions_items (w : World) (ref : IssueRef) (as : List Action) :
    (Manager.applyActions tracker ref false as w).2.items =
      updateFirst ref (·.actAll (w.accepted ref as)) w.items := by
  induction as generalizing w with
  | nil => exact (updateFirst_id ref w.items).symm
  | cons a as ih =>
    rw [applyActions_cons, accepted, List.takeWhile_cons]
    cases w.refusal ref a with
    | some e => exact (updateFirst_id ref w.items).symm
    | none =>
      rw [ih]
      exact updateFirst_updateFirst (fun it => it.act_reference a) ref w.items

/-- A list of actions fails with the first one that the world refuses. -/
theorem applyActions_refused {as : List Action} {k : Nat} {e : ServiceError} (hk : k < as.length)
    (hdone : ∀ a ∈ as.take k, w.refusal ref a = none) (hfail : w.refusal ref as[k] = some e) :
    (Manager.applyActions tracker ref false as w).1 = .error (.actionApply ref as[k] e) ∧
      w.accepted ref as = as.take k := by
  induction as generalizing w k with
  | nil => cases hk
  | cons a as ih =>
    rw [applyActions_cons, accepted, List.takeWhile_cons]
    cases k with
    | zero =>
      rw [List.getElem_cons_zero] at hfail
      simp [hfail]
    | succ k =>
      have ha : w.refusal ref a = none := hdone a List.mem_cons_self
      rw [ha]
      obtain ⟨herr, hacc⟩ := ih (w := ((w.note _).change ref _).note _) (Nat.lt_of_succ_lt_succ hk)
        (fun b hb => hdone b (List.mem_cons_of_mem _ hb)) hfail
      exact ⟨herr, congrArg (a :: ·) hacc⟩

end World

end Upkeep
