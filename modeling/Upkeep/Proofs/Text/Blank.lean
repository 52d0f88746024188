import Upkeep.Text.Blank
import Mathlib.Data.List.Basic
/-!
# Blanks at the ends of a text

Trimming takes blanks away at either end of a text and leaves none there (`trims_trimChars`). What
it leaves is determined by that (`Trims.trimChars_eq`).
-/

namespace Upkeep

variable {cs t : List Char}

/-- The second text is the first without the blanks at either end. -/
structure Trims (cs t : List Char) : Prop where
  framed : ∃ front back, cs = front ++ t ++ back ∧ ∀ c ∈ front ++ back, isBlank c = true
  first : ∀ c ∈ t.head?, isBlank c = false
  last : ∀ c ∈ t.getLast?, isBlank c = false

theorem isBlank_of_mem_head?_dropWhile {c : Char} (h : c ∈ (cs.dropWhile isBlank).head?) :
    isBlank c = false := by
  have hhead := List.head?_dropWhile_not isBlank cs
  rw [Option.mem_def.1 h] at hhead
  exact hhead

theorem dropWhile_eq_self (h : ∀ c ∈ cs.head?, isBlank c = false) :
    cs.dropWhile isBlank = cs := by
  cases cs with
  | nil => rfl
  | cons c cs => rw [List.dropWhile_cons_of_neg (Bool.eq_false_iff.1 (h c rfl))]

theorem trimStart_framed (cs : List Char) :
    ∃ front, cs = front ++ trimStart cs ∧ ∀ c ∈ front, isBlank c = true :=
  ⟨cs.takeWhile isBlank, List.takeWhile_append_dropWhile.symm,
    List.all_eq_true.1 List.all_takeWhile⟩

theorem trimEnd_framed (cs : List Char) :
    ∃ back, cs = trimEnd cs ++ back ∧ ∀ c ∈ back, isBlank c = true := by
  obtain ⟨front, hcs, hfront⟩ := trimStart_framed cs.reverse
  refine ⟨front.reverse, ?_, fun c hc => hfront c (List.mem_reverse.1 hc)⟩
  rw [trimEnd, ← List.reverse_append]
  exact List.reverse_eq_iff.1 hcs

theorem trims_trimChars (cs : List Char) : Trims cs (trimChars cs) := by
  obtain ⟨front, hcs, hfront⟩ := trimStart_framed cs
  obtain ⟨back, hrest, hback⟩ := trimEnd_framed (trimStart cs)
  refine ⟨⟨front, back, ?_, List.forall_mem_append.2 ⟨hfront, hback⟩⟩, fun c hc => ?_,
    fun c hc => ?_⟩
  · rw [List.append_assoc, trimChars, ← hrest]
    exact hcs
  · have hfirst : c ∈ (trimStart cs).head? := by
      rw [hrest]
      exact List.mem_head?_append_of_mem_head? hc
    exact isBlank_of_mem_head?_dropWhile hfirst
  · rw [trimChars, trimEnd, List.getLast?_reverse] at hc
    exact isBlank_of_mem_head?_dropWhile hc

namespace Trims

/-- Trimming leaves what lies between the blanks at the ends, and nothing else does. -/
theorem trimChars_eq (h : Trims cs t) : trimChars cs = t := by
  obtain ⟨front, back, rfl, hblank⟩ := h.framed
  obtain ⟨hfront, hback⟩ := List.forall_mem_append.1 hblank
  by_cases hne : t = []
  · subst hne
    rw [trimChars_eq_nil_iff, List.append_nil]
    exact List.all_eq_true.2 hblank
  · have hstart : trimStart (front ++ t ++ back) = t ++ back := by
      rw [trimStart, List.append_assoc, List.dropWhile_append_of_pos hfront, dropWhile_eq_self]
      rw [List.head?_append_of_ne_nil _ hne]
      exact h.first
    have hend : trimEnd (t ++ back) = t := by
      rw [trimEnd, List.reverse_append,
        List.dropWhile_append_of_pos fun c hc => hback c (List.mem_reverse.1 hc),
        dropWhile_eq_self, List.reverse_reverse]
      rw [List.head?_reverse]
      exact h.last
    rw [trimChars, hstart, hend]

theorem subset (h : Trims cs t) : t ⊆ cs := by
  obtain ⟨front, back, rfl, -⟩ := h.framed
  intro c hc
  simp [hc]

/-- A trimmed text has nothing to trim. -/
theorem again (h : Trims cs t) : Trims t t := ⟨⟨[], [], by simp, nofun⟩, h.first, h.last⟩

end Trims

theorem isBlank_of_isDigit {c : Char} (h : c.isDigit = true) : isBlank c = false := by
  simp only [Char.isDigit, Bool.and_eq_true, decide_eq_true_eq] at h
  have hlow : 48 ≤ c.toNat := h.1
  have hhigh : c.toNat ≤ 57 := h.2
  simp only [isBlank, Bool.or_eq_false_iff, Bool.and_eq_false_iff, decide_eq_false_iff_not,
    beq_eq_false_iff_ne]
  omega

/-- A text without blanks has nothing to trim. -/
theorem trims_of_not_isBlank (h : ∀ c ∈ cs, isBlank c = false) : Trims cs cs where
  framed := ⟨[], [], by simp, nofun⟩
  first c hc := h c (List.mem_of_mem_head? hc)
  last c hc := h c (List.mem_of_mem_getLast? hc)

end Upkeep
