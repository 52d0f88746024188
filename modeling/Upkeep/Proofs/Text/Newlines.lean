import Upkeep.Text.Search
import Mathlib.Data.List.Infix
/-!
# Line ends

A text may come back with carriage returns before some of its line feeds (`CrInserted`). Normalizing
the line ends forgets them (`CrInserted.normalizeNewlines_eq`), keeps what stands behind a line feed
(`normalizeNewlines_append`), and brings forth nothing else between line feeds than was there
(`infix_of_normalizeNewlines`).
-/

namespace Upkeep

theorem normalizeNewlines_crlf (cs : List Char) :
    normalizeNewlines ('\r' :: '\n' :: cs) = '\n' :: normalizeNewlines cs := rfl

/-- A character that does not begin a line end of two characters stays. -/
theorem normalizeNewlines_cons {c : Char} {cs : List Char} (h : c ≠ '\r' ∨ cs.head? ≠ some '\n') :
    normalizeNewlines (c :: cs) = c :: normalizeNewlines cs := by
  have hnot : ['\r', '\n'].isPrefixOf (c :: cs) = false := by
    cases cs with
    | nil => simp [List.isPrefixOf]
    | cons d ds =>
      simp only [List.head?_cons, ne_eq, Option.some.injEq] at h
      simp only [List.isPrefixOf, Bool.and_true, Bool.and_eq_false_iff, beq_eq_false_iff_ne]
      exact h.imp Ne.symm Ne.symm
  rw [normalizeNewlines, replaceAll, replaceFrom, hnot]
  rfl

/-! ## Carriage returns that were put in -/

/-- The second text is the first with carriage returns before some of its line feeds, none of which
has one already. The texts follow the given character, if there is one. -/
inductive CrInserted : Option Char → List Char → List Char → Prop
  | nil {p} : CrInserted p [] []
  | keep {p c cs ds} : CrInserted (some c) cs ds → CrInserted p (c :: cs) (c :: ds)
  | insert {p cs ds} : p ≠ some '\r' → CrInserted (some '\n') cs ds →
    CrInserted p ('\n' :: cs) ('\r' :: '\n' :: ds)

theorem CrInserted.refl (cs : List Char) : ∀ p, CrInserted p cs cs := by
  induction cs with
  | nil => exact fun _ => .nil
  | cons c cs ih => exact fun _ => .keep (ih _)

/-- The induction also looks at the texts behind a carriage return, with which a line feed at their
beginning makes up one line end. -/
theorem CrInserted.normalizeNewlines_both {p : Option Char} {cs ds : List Char}
    (h : CrInserted p cs ds) : normalizeNewlines ds = normalizeNewlines cs ∧
      (p = some '\r' → normalizeNewlines ('\r' :: ds) = normalizeNewlines ('\r' :: cs)) := by
  induction h with
  | nil => exact ⟨rfl, fun _ => rfl⟩
  | @keep p c cs ds _ ih =>
    have hsame : normalizeNewlines (c :: ds) = normalizeNewlines (c :: cs) := by
      by_cases hc : c = '\r'
      · subst hc
        exact ih.2 rfl
      · rw [normalizeNewlines_cons (.inl hc), normalizeNewlines_cons (.inl hc), ih.1]
    refine ⟨hsame, fun _ => ?_⟩
    by_cases hc : c = '\n'
    · subst hc
      rw [normalizeNewlines_crlf, normalizeNewlines_crlf, ih.1]
    · have hhead (l : List Char) : (c :: l).head? ≠ some '\n' := by simpa using hc
      rw [normalizeNewlines_cons (.inr (hhead ds)), normalizeNewlines_cons (.inr (hhead cs)),
        hsame]
  | @insert p cs ds hp _ ih =>
    refine ⟨?_, fun h => absurd h hp⟩
    rw [normalizeNewlines_crlf, normalizeNewlines_cons (.inl (by decide)), ih.1]

/-- Carriage returns that were put in are forgotten. -/
theorem CrInserted.normalizeNewlines_eq {cs ds : List Char} (h : CrInserted none cs ds) :
    normalizeNewlines ds = normalizeNewlines cs := h.normalizeNewlines_both.1

/-! ## What stands at the end -/

theorem normalizeNewlines_append_both (cs ds : List Char) :
    (∃ front, normalizeNewlines (cs ++ '\n' :: ds) = front ++ '\n' :: normalizeNewlines ds) ∧
      ∃ front, normalizeNewlines ('\r' :: (cs ++ '\n' :: ds)) =
        front ++ '\n' :: normalizeNewlines ds := by
  induction cs with
  | nil => exact ⟨⟨[], normalizeNewlines_cons (.inl (by decide))⟩, [], normalizeNewlines_crlf ds⟩
  | cons c cs ih =>
    obtain ⟨⟨front, hfront⟩, hreturn⟩ := ih
    have hone : ∃ front, normalizeNewlines (c :: (cs ++ '\n' :: ds)) =
        front ++ '\n' :: normalizeNewlines ds := by
      by_cases hc : c = '\r'
      · subst hc
        exact hreturn
      · exact ⟨c :: front, by rw [normalizeNewlines_cons (.inl hc), hfront, List.cons_append]⟩
    refine ⟨hone, ?_⟩
    by_cases hc : c = '\n'
    · subst hc
      exact ⟨'\n' :: front, by
        rw [List.cons_append, normalizeNewlines_crlf, hfront, List.cons_append]⟩
    · obtain ⟨front, hfront⟩ := hone
      have hhead : (c :: (cs ++ '\n' :: ds)).head? ≠ some '\n' := by simpa using hc
      exact ⟨'\r' :: front, by
        rw [List.cons_append, normalizeNewlines_cons (.inr hhead), hfront, List.cons_append]⟩

/-- What begins with a line feed is normalized on its own, but for a carriage return before it. -/
theorem normalizeNewlines_append (cs ds : List Char) :
    ∃ front, normalizeNewlines (cs ++ '\n' :: ds) = front ++ '\n' :: normalizeNewlines ds :=
  (normalizeNewlines_append_both cs ds).1

/-! ## What stands between line feeds -/

variable {needle cs : List Char}

/-- A character and the line feed behind it are one line end, or the character stays. -/
theorem normalizeNewlines_cons_cases (c : Char) (cs : List Char) :
    (∃ rest, normalizeNewlines (c :: cs) = '\n' :: rest ∧ normalizeNewlines cs = '\n' :: rest) ∨
      normalizeNewlines (c :: cs) = c :: normalizeNewlines cs := by
  by_cases h : c = '\r' ∧ cs.head? = some '\n'
  · obtain ⟨rfl, hhead⟩ := h
    obtain ⟨ds, rfl⟩ := List.head?_eq_some_iff.1 hhead
    exact .inl ⟨_, normalizeNewlines_crlf ds, normalizeNewlines_cons (.inl (by decide))⟩
  · exact .inr (normalizeNewlines_cons (not_and_or.1 h))

theorem prefix_of_normalizeNewlines (hline : '\n' ∉ needle)
    (h : needle <+: normalizeNewlines cs) : needle <+: cs := by
  induction cs generalizing needle with
  | nil => exact h
  | cons c cs ih =>
    cases needle with
    | nil => exact List.nil_prefix
    | cons d needle =>
      rw [List.mem_cons, not_or] at hline
      rcases normalizeNewlines_cons_cases c cs with ⟨rest, hcrlf, -⟩ | hstays
      · rw [hcrlf, List.cons_prefix_cons] at h
        exact absurd h.1.symm hline.1
      · rw [hstays, List.cons_prefix_cons] at h
        exact List.cons_prefix_cons.2 ⟨h.1, ih hline.2 h.2⟩

/-- A part without line feeds that is there when line ends are normalized was there before. -/
theorem infix_of_normalizeNewlines (hline : '\n' ∉ needle)
    (h : needle <:+: normalizeNewlines cs) : needle <:+: cs := by
  induction cs with
  | nil => exact h
  | cons c cs ih =>
    rcases normalizeNewlines_cons_cases c cs with ⟨rest, hcrlf, hrest⟩ | hstays
    · rw [hcrlf, ← hrest] at h
      exact List.infix_cons (ih h)
    · rw [hstays, List.infix_cons_iff, ← hstays] at h
      rcases h with h | h
      · exact (prefix_of_normalizeNewlines hline h).isInfix
      · exact List.infix_cons (ih h)

end Upkeep
