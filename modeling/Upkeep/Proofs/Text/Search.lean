import Upkeep.Text.Search
import Mathlib.Data.List.Basic
import Mathlib.Data.List.TakeWhile
/-!
# Cutting and searching texts

A text is cut at its first or its last separator exactly if it has one (`splitFirst?_eq_some_iff`,
`splitLast?_eq_some_iff`), and contains another exactly if that is a part of it
(`containsText_iff`). Replacing passes over an occurrence as a whole (`replaceAll_append_self`), and
over everything in which none can begin. What stands at the end of a text still stands there when
something is cut off in front of it.
-/

namespace Upkeep

variable {p : Char → Bool} {sep c : Char} {l t : List Char}

/-! ## One separator -/

theorem splitFirst?_eq_none_iff : splitFirst? sep l = none ↔ sep ∉ l := by
  induction l with
  | nil => simp [splitFirst?]
  | cons x l ih =>
    rw [splitFirst?]
    by_cases hx : x = sep
    · simp [hx]
    · simp [hx, ih, Ne.symm hx]

theorem splitFirst?_append {a : List Char} (h : sep ∉ a) (b : List Char) :
    splitFirst? sep (a ++ sep :: b) = some (a, b) := by
  induction a with
  | nil => simp [splitFirst?]
  | cons x a ih =>
    rw [List.mem_cons, not_or] at h
    rw [List.cons_append, splitFirst?, if_neg (Ne.symm h.1), ih h.2, Option.map_some]

/-- A text is cut at its first separator. -/
theorem splitFirst?_eq_some_iff {a b : List Char} :
    splitFirst? sep l = some (a, b) ↔ l = a ++ sep :: b ∧ sep ∉ a := by
  constructor
  · intro h
    have hmem : sep ∈ l := by
      by_contra hnot
      rw [splitFirst?_eq_none_iff.2 hnot] at h
      cases h
    obtain ⟨a', b', rfl, ha'⟩ := List.eq_append_cons_of_mem hmem
    rw [splitFirst?_append ha'] at h
    cases h
    exact ⟨rfl, ha'⟩
  · rintro ⟨rfl, ha⟩
    exact splitFirst?_append ha b

theorem splitLast?_eq_none_iff : splitLast? sep l = none ↔ sep ∉ l := by
  induction l with
  | nil => simp [splitLast?]
  | cons x l ih =>
    rw [splitLast?]
    cases hl : splitLast? sep l with
    | some cut =>
      rw [hl] at ih
      simp only [reduceCtorEq, false_iff, not_not] at ih
      simp [ih]
    | none =>
      rw [hl] at ih
      simp [ih.1 rfl, eq_comm]

theorem splitLast?_append {b : List Char} (h : sep ∉ b) (a : List Char) :
    splitLast? sep (a ++ sep :: b) = some (a, b) := by
  induction a with
  | nil => simp [splitLast?, splitLast?_eq_none_iff.2 h]
  | cons x a ih => rw [List.cons_append, splitLast?, ih]

/-- A text is cut at its last separator. -/
theorem splitLast?_eq_some_iff {a b : List Char} :
    splitLast? sep l = some (a, b) ↔ l = a ++ sep :: b ∧ sep ∉ b := by
  constructor
  · intro h
    have hmem : sep ∈ l.reverse := by
      by_contra hnot
      rw [splitLast?_eq_none_iff.2 fun hl => hnot (List.mem_reverse.2 hl)] at h
      cases h
    obtain ⟨b', a', hl, hb'⟩ := List.eq_append_cons_of_mem hmem
    have hlast : l = a'.reverse ++ sep :: b'.reverse := by
      rw [← List.reverse_reverse l, hl]
      simp
    have hnot : sep ∉ b'.reverse := fun hb => hb' (List.mem_reverse.1 hb)
    rw [hlast, splitLast?_append hnot] at h
    cases h
    exact ⟨hlast, hnot⟩
  · rintro ⟨rfl, hb⟩
    exact splitLast?_append hb a

/-! ## Parts of a text -/

/-- A text is found in another exactly if it is a part of it. -/
theorem containsText_iff {needle : List Char} : containsText needle l = true ↔ needle <:+: l := by
  induction l with
  | nil => rw [containsText, List.isPrefixOf_iff_prefix, List.prefix_nil, List.infix_nil]
  | cons x l ih =>
    rw [containsText, Bool.or_eq_true, List.isPrefixOf_iff_prefix, ih, List.infix_cons_iff]

/-- A beginning that a separator does not occur in ends before the separator. -/
theorem prefix_of_prefix_append {w rest : List Char} (h : w <+: l ++ sep :: rest) (hw : sep ∉ w) :
    w <+: l := by
  rcases List.prefix_or_prefix_of_prefix h (List.prefix_append l (sep :: rest)) with hle | hle
  · exact hle
  · obtain ⟨tail, rfl⟩ := hle
    rw [List.prefix_append_right_inj] at h
    cases tail with
    | nil => exact ⟨[], by rw [List.append_nil, List.append_nil]⟩
    | cons d tail =>
      obtain ⟨rfl, -⟩ := List.cons_prefix_cons.1 h
      exact absurd (List.mem_append_right l List.mem_cons_self) hw

/-! ## Replacing -/

section

variable {pattern replacement : List Char}

/-- A character at which the pattern does not begin stays. -/
theorem replaceAll_cons (h : ¬ pattern <+: c :: l) :
    replaceAll pattern replacement (c :: l) = c :: replaceAll pattern replacement l := by
  rw [← List.isPrefixOf_iff_prefix, Bool.not_eq_true] at h
  rw [replaceAll, replaceFrom, h, if_neg Bool.false_ne_true]
  rfl

/-- Where the pattern cannot begin, nothing is replaced. -/
theorem replaceAll_append (hl : c ∉ l) (rest : List Char) :
    replaceAll (c :: pattern) replacement (l ++ rest) =
      l ++ replaceAll (c :: pattern) replacement rest := by
  induction l with
  | nil => rfl
  | cons x l ih =>
    rw [List.mem_cons, not_or] at hl
    rw [List.cons_append, replaceAll_cons fun h => hl.1 (List.cons_prefix_cons.1 h).1, ih hl.2,
      List.cons_append]

theorem replaceFrom_append (passed rest : List Char) :
    replaceFrom pattern replacement passed.length (passed ++ rest) =
      replaceAll pattern replacement rest := by
  induction passed with
  | nil => rfl
  | cons x passed ih => exact ih

/-- An occurrence is replaced as a whole. -/
theorem replaceAll_append_self (c : Char) (pattern rest : List Char) :
    replaceAll (c :: pattern) replacement (c :: pattern ++ rest) =
      replacement ++ replaceAll (c :: pattern) replacement rest := by
  have hbegins : (c :: pattern).isPrefixOf (c :: (pattern ++ rest)) = true :=
    List.isPrefixOf_iff_prefix.2 ⟨rest, rfl⟩
  rw [List.cons_append, replaceAll, replaceFrom, if_pos hbegins]
  exact congrArg _ (replaceFrom_append pattern rest)

end

/-! ## The end of a text -/

/-- What fails a test ends the part that passes it, whatever stands behind. -/
theorem takeWhile_append_of_mem (hc : c ∈ l) (hp : p c = false) (t : List Char) :
    (l ++ t).takeWhile p = l.takeWhile p := by
  rw [List.takeWhile_append, if_neg]
  intro hlength
  have hall := List.takeWhile_eq_self_iff.1 ((List.takeWhile_prefix p).eq_of_length hlength) c hc
  rw [hp] at hall
  cases hall

theorem dropWhile_append_of_mem (hc : c ∈ l) (hp : p c = false) (t : List Char) :
    (l ++ t).dropWhile p = l.dropWhile p ++ t := by
  rw [List.dropWhile_append, if_neg]
  intro hempty
  have hall := List.dropWhile_eq_nil_iff.1 (List.isEmpty_iff.1 hempty) c hc
  rw [hp] at hall
  cases hall

theorem suffix_dropWhile (h : c :: t <:+ l) (hc : p c = false) : c :: t <:+ l.dropWhile p := by
  induction l with
  | nil => exact h
  | cons x l ih =>
    cases hx : p x with
    | false => rwa [List.dropWhile_cons_of_neg (Bool.eq_false_iff.1 hx)]
    | true =>
      rw [List.dropWhile_cons_of_pos hx]
      rcases List.suffix_cons_iff.1 h with heq | h
      · rw [(List.cons.inj heq).1, hx] at hc
        cases hc
      · exact ih h

theorem suffix_splitFirst? {a b : List Char} (hcut : splitFirst? sep l = some (a, b)) (h : t <:+ l)
    (ht : sep ∉ t) : t <:+ b := by
  have hb : sep :: b <:+ l := ⟨a, (splitFirst?_eq_some_iff.1 hcut).1.symm⟩
  rcases List.suffix_or_suffix_of_suffix h hb with h | h
  · rcases List.suffix_cons_iff.1 h with rfl | h
    · exact absurd List.mem_cons_self ht
    · exact h
  · exact absurd (h.subset List.mem_cons_self) ht

theorem splitWhere_of_forall (h : ∀ c ∈ l, p c = false) : splitWhere p l = [l] := by
  induction l with
  | nil => rfl
  | cons x l ih =>
    obtain ⟨hx, hl⟩ := List.forall_mem_cons.1 h
    rw [splitWhere, hx, if_neg Bool.false_ne_true, ih hl]

/-- The last piece of a text, and that there is one before it. -/
theorem suffix_splitWhere (h : c :: t <:+ l) (hc : p c = true) (ht : ∀ c ∈ t, p c = false) :
    ∃ before, [before, t] <:+ splitWhere p l := by
  induction l with
  | nil => cases List.suffix_nil.1 h
  | cons x l ih =>
    rcases List.suffix_cons_iff.1 h with heq | h
    · obtain ⟨rfl, rfl⟩ := List.cons.inj heq
      rw [splitWhere, if_pos hc, splitWhere_of_forall ht]
      exact ⟨[], List.suffix_rfl⟩
    · obtain ⟨before, hbefore⟩ := ih h
      rw [splitWhere]
      split
      · exact ⟨before, hbefore.trans (List.suffix_cons _ _)⟩
      · cases hl : splitWhere p l with
        | nil =>
          rw [hl] at hbefore
          cases List.suffix_nil.1 hbefore
        | cons s rest =>
          rw [hl] at hbefore
          rcases List.suffix_cons_iff.1 hbefore with heq | hrest
          · obtain ⟨rfl, rfl⟩ := List.cons.inj heq
            exact ⟨x :: before, List.suffix_rfl⟩
          · exact ⟨before, hrest.trans (List.suffix_cons _ _)⟩

/-- What follows the last separator of a text is determined by the text. -/
theorem eq_of_suffix {t' : List Char} (h : sep :: t <:+ l) (h' : sep :: t' <:+ l) (ht : sep ∉ t)
    (ht' : sep ∉ t') : t = t' := by
  rcases List.suffix_or_suffix_of_suffix h h' with h | h
  · rcases List.suffix_cons_iff.1 h with heq | h
    · exact (List.cons.inj heq).2
    · exact absurd (h.subset List.mem_cons_self) ht'
  · rcases List.suffix_cons_iff.1 h with heq | h
    · exact (List.cons.inj heq).2.symm
    · exact absurd (h.subset List.mem_cons_self) ht

end Upkeep
