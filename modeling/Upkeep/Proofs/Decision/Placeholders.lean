import Upkeep.Proofs.Decision.Template
import Upkeep.Proofs.Text.Search
import Upkeep.Proofs.Text.Numeral
/-!
# Placeholders

A template is rendered by one replacement after the other. It comes to the same as reading the
template once, from left to right, and writing a date for every placeholder that is met
(`render_at_once`). Two placeholders cannot overlap, as each begins with the only opening brace in
it, and no date can bring forth a placeholder or break one, as the two have no character in common
(`Reads.written`).
-/

namespace Upkeep.Template

/-- The placeholders of a template. -/
inductive Mark
  | lastActivity
  | closeDate
deriving DecidableEq

def Mark.chars : Mark → List Char
  | .lastActivity => lastActivityMark
  | .closeDate => closeDateMark

/-- The placeholder that stands at the beginning of a text. -/
def Mark.at? (cs : List Char) : Option Mark :=
  if lastActivityMark.isPrefixOf cs then some .lastActivity
  else if closeDateMark.isPrefixOf cs then some .closeDate
  else none

/-- A part of a template: a character that stands for itself, or a placeholder. -/
inductive Part
  | char (c : Char)
  | mark (m : Mark)
deriving DecidableEq

/-- The text that a part was read from. -/
def Part.source : Part → List Char
  | .char c => [c]
  | .mark m => m.chars

/-- Reads the parts of a template from left to right. The first argument counts the characters still
to be passed over, because they belong to the placeholder that was just met. -/
def partsFrom : Nat → List Char → List Part
  | _, [] => []
  | skip + 1, _ :: cs => partsFrom skip cs
  | 0, c :: cs =>
    match Mark.at? (c :: cs) with
    | some m => .mark m :: partsFrom (m.chars.length - 1) cs
    | none => .char c :: partsFrom 0 cs

def parts (cs : List Char) : List Part := partsFrom 0 cs

/-- What placeholders are written as. One that nothing is said of stays as it is. -/
abbrev Dates := Mark → Option (List Char)

/-- A part as it is written. -/
def Part.written (dates : Dates) : Part → List Char
  | .char c => [c]
  | .mark m => (dates m).getD m.chars

/-- A text with all its placeholders written at once. -/
def substitute (dates : Dates) (cs : List Char) : List Char :=
  (parts cs).flatMap (Part.written dates)

/-! ## Braces -/

/-- The characters of dates. -/
def IsDateChar (c : Char) : Prop := c.isDigit = true ∨ c = '-' ∨ c = '+'

instance (c : Char) : Decidable (IsDateChar c) := inferInstanceAs (Decidable (_ ∨ _))

/-- What follows the opening brace of a placeholder. -/
def Mark.inner (m : Mark) : List Char := m.chars.tail

theorem Mark.chars_eq (m : Mark) : m.chars = '\x7b' :: m.inner := by cases m <;> rfl

theorem Mark.brace_notMem_inner (m : Mark) : '\x7b' ∉ m.inner := by cases m <;> decide

theorem Mark.not_isDateChar_of_mem_inner (m : Mark) : ∀ c ∈ m.inner, ¬ IsDateChar c := by
  have hall : m.inner.all (fun c => !decide (IsDateChar c)) = true := by cases m <;> decide
  intro c hc
  simpa using List.all_eq_true.1 hall c hc

theorem brace_not_isDateChar : ¬ IsDateChar '\x7b' := by decide

/-- No placeholder is the beginning of another. -/
theorem Mark.eq_of_prefix {m m' : Mark} {cs : List Char} (h : m.chars <+: m'.chars ++ cs) :
    m = m' := by
  cases m <;> cases m'
  · rfl
  -- They differ in the second character.
  · have htail := (List.cons_prefix_cons.1 h).2
    exact absurd (List.cons_prefix_cons.1 htail).1 (by decide)
  · have htail := (List.cons_prefix_cons.1 h).2
    exact absurd (List.cons_prefix_cons.1 htail).1 (by decide)
  · rfl

/-! ## Reading -/

/-- A text is read as these parts: no character stands for itself where a placeholder begins. -/
inductive Reads : List Char → List Part → Prop
  | nil : Reads [] []
  | mark {cs ps} (m : Mark) : Reads cs ps → Reads (m.chars ++ cs) (.mark m :: ps)
  | char {c cs ps} : (∀ m : Mark, ¬ m.chars <+: c :: cs) → Reads cs ps →
    Reads (c :: cs) (.char c :: ps)

theorem Mark.at?_chars (m : Mark) (cs : List Char) : Mark.at? (m.chars ++ cs) = some m := by
  unfold Mark.at?
  cases m with
  | lastActivity => exact if_pos (List.isPrefixOf_iff_prefix.2 (List.prefix_append _ cs))
  | closeDate =>
    have hother : ¬ lastActivityMark.isPrefixOf (closeDateMark ++ cs) = true := by
      intro h
      have hsame : Mark.lastActivity = Mark.closeDate :=
        Mark.eq_of_prefix (List.isPrefixOf_iff_prefix.1 h)
      cases hsame
    have hown : closeDateMark.isPrefixOf (closeDateMark ++ cs) = true :=
      List.isPrefixOf_iff_prefix.2 (List.prefix_append _ cs)
    exact (if_neg hother).trans (if_pos hown)

theorem Mark.prefix_of_at? {m : Mark} {cs : List Char} (h : Mark.at? cs = some m) :
    m.chars <+: cs := by
  unfold Mark.at? at h
  split at h
  · next hlast =>
    cases h
    exact List.isPrefixOf_iff_prefix.1 hlast
  split at h
  · next hclose =>
    cases h
    exact List.isPrefixOf_iff_prefix.1 hclose
  · cases h

theorem Mark.at?_eq_none_iff {cs : List Char} :
    Mark.at? cs = none ↔ ∀ m : Mark, ¬ m.chars <+: cs := by
  constructor
  · rintro h m ⟨rest, rfl⟩
    rw [Mark.at?_chars] at h
    cases h
  · intro h
    cases hat : Mark.at? cs with
    | none => rfl
    | some m => exact absurd (Mark.prefix_of_at? hat) (h m)

theorem partsFrom_append (passed cs : List Char) :
    partsFrom passed.length (passed ++ cs) = parts cs := by
  induction passed with
  | nil => rfl
  | cons x passed ih => exact ih

theorem parts_mark (m : Mark) (cs : List Char) : parts (m.chars ++ cs) = .mark m :: parts cs := by
  have hat := Mark.at?_chars m cs
  have hlength : m.chars.length - 1 = m.inner.length := List.length_tail.symm
  rw [Mark.chars_eq, List.cons_append] at hat ⊢
  rw [parts, partsFrom, hat]
  dsimp only
  rw [hlength, partsFrom_append]

theorem parts_char {c : Char} {cs : List Char} (h : ∀ m : Mark, ¬ m.chars <+: c :: cs) :
    parts (c :: cs) = .char c :: parts cs := by
  rw [parts, partsFrom, Mark.at?_eq_none_iff.2 h]
  rfl

theorem reads_parts (cs : List Char) : Reads cs (parts cs) := by
  induction h : cs.length using Nat.strongRecOn generalizing cs with
  | ind n ih =>
    cases cs with
    | nil => exact .nil
    | cons c rest =>
      cases hat : Mark.at? (c :: rest) with
      | some m =>
        obtain ⟨behind, hbehind⟩ := Mark.prefix_of_at? hat
        have hlength := congrArg List.length hbehind
        rw [List.length_append, Mark.chars_eq, List.length_cons] at hlength
        rw [← hbehind, parts_mark]
        exact .mark m (ih behind.length (by omega) behind rfl)
      | none =>
        have hnot := Mark.at?_eq_none_iff.1 hat
        rw [parts_char hnot]
        exact .char hnot (ih rest.length (by rw [← h]; exact Nat.lt_succ_self _) rest rfl)

namespace Reads

variable {cs : List Char} {ps : List Part}

/-- There is one way to read a text. -/
theorem parts_eq (h : Reads cs ps) : parts cs = ps := by
  induction h with
  | nil => rfl
  | mark m h ih => rw [parts_mark, ih]
  | char hnot h ih => rw [parts_char hnot, ih]

/-- Reading loses nothing. -/
theorem source (h : Reads cs ps) : ps.flatMap Part.source = cs := by
  induction h with
  | nil => rfl
  | mark m h ih => rw [List.flatMap_cons, ih]; rfl
  | char hnot h ih => rw [List.flatMap_cons, ih]; rfl

/-- Characters that are no opening braces stand for themselves, whatever follows. -/
theorem chars {r : List Char} (hr : '\x7b' ∉ r) (h : Reads cs ps) :
    Reads (r ++ cs) (r.map .char ++ ps) := by
  induction r with
  | nil => exact h
  | cons c r ih =>
    rw [List.mem_cons, not_or] at hr
    refine .char (fun m hm => ?_) (ih hr.2)
    rw [Mark.chars_eq] at hm
    exact hr.1 (List.cons_prefix_cons.1 hm).1

/-- A placeholder is read wherever it stands. -/
theorem append_mark (h : Reads cs ps) (m : Mark) {cs' : List Char} {ps' : List Part}
    (h' : Reads cs' ps') : Reads (cs ++ m.chars ++ cs') (ps ++ .mark m :: ps') := by
  induction h with
  | nil => exact .mark m h'
  | mark m' h ih =>
    rw [List.append_assoc, List.append_assoc]
    rw [List.append_assoc] at ih
    exact .mark m' ih
  | @char c cs ps hnot h ih =>
    refine .char (fun m' (hm' : m'.chars <+: c :: (cs ++ m.chars ++ cs')) => hnot m' ?_) ih
    -- No placeholder reaches into the one behind it.
    rw [List.append_assoc, Mark.chars_eq m, Mark.chars_eq m'] at hm'
    obtain ⟨rfl, htail⟩ := List.cons_prefix_cons.1 hm'
    rw [Mark.chars_eq m']
    exact List.cons_prefix_cons.2
      ⟨rfl, prefix_of_prefix_append htail m'.brace_notMem_inner⟩

/-- What stands before and behind a placeholder is read on its own. -/
theorem exists_append {ps₁ ps₂ : List Part} {m : Mark} (h : Reads cs (ps₁ ++ .mark m :: ps₂)) :
    ∃ cs₁ cs₂, cs = cs₁ ++ m.chars ++ cs₂ ∧ Reads cs₁ ps₁ ∧ Reads cs₂ ps₂ := by
  induction ps₁ generalizing cs with
  | nil =>
    cases h with
    | mark _ h => exact ⟨[], _, rfl, .nil, h⟩
  | cons p ps₁ ih =>
    cases h with
    | mark m' h =>
      obtain ⟨cs₁, cs₂, rfl, h₁, h₂⟩ := ih h
      exact ⟨m'.chars ++ cs₁, cs₂, by simp only [List.append_assoc], .mark m' h₁, h₂⟩
    | char hnot h =>
      obtain ⟨cs₁, cs₂, rfl, h₁, h₂⟩ := ih h
      refine ⟨_ :: cs₁, cs₂, rfl, .char (fun m' hm' => hnot m' ?_) h₁, h₂⟩
      rw [List.append_assoc, ← List.cons_append]
      exact hm'.trans (List.prefix_append _ _)

/-- A placeholder is a part of a text exactly if it is read from it. -/
theorem infix_iff (h : Reads cs ps) (m : Mark) : m.chars <:+: cs ↔ .mark m ∈ ps := by
  constructor
  · rintro ⟨before, behind, rfl⟩
    have hparts := (reads_parts before).append_mark m (reads_parts behind)
    rw [← h.parts_eq, hparts.parts_eq]
    simp
  · intro hmem
    obtain ⟨ps₁, ps₂, rfl⟩ := List.append_of_mem hmem
    obtain ⟨cs₁, cs₂, rfl, -, -⟩ := h.exists_append
    exact ⟨cs₁, cs₂, rfl⟩

end Reads

/-! ## Writing -/

/-- What is written for placeholders are dates. -/
def AreDates (dates : Dates) : Prop :=
  ∀ m r, dates m = some r → r ≠ [] ∧ ∀ c ∈ r, IsDateChar c

/-- The parts that a part is read as once it has been written. -/
def Part.again (dates : Dates) : Part → List Part
  | .char c => [.char c]
  | .mark m => (dates m).elim [.mark m] (List.map .char)

theorem AreDates.brace_notMem {dates : Dates} {m : Mark} {r : List Char} (h : AreDates dates)
    (hr : dates m = some r) : '\x7b' ∉ r :=
  fun hmem => brace_not_isDateChar ((h m r hr).2 _ hmem)

namespace Reads

variable {cs : List Char} {ps : List Part} {dates : Dates}

/-- What has no character of a date and no opening brace is at the beginning of a written text only
if it was there before. -/
theorem prefix_of_written (hdates : AreDates dates) (h : Reads cs ps) {w : List Char}
    (hbrace : '\x7b' ∉ w) (hw : ∀ c ∈ w, ¬ IsDateChar c)
    (hbegins : w <+: ps.flatMap (Part.written dates)) : w <+: cs := by
  induction h generalizing w with
  | nil => exact hbegins
  | @mark cs ps m h ih =>
    cases w with
    | nil => exact List.nil_prefix
    | cons d w =>
      exfalso
      rw [List.flatMap_cons, Part.written] at hbegins
      cases hr : dates m with
      | none =>
        rw [hr, Option.getD_none, Mark.chars_eq] at hbegins
        exact hbrace ((List.cons_prefix_cons.1 hbegins).1 ▸ List.mem_cons_self)
      | some r =>
        obtain ⟨hne, hchars⟩ := hdates m r hr
        obtain ⟨e, r', rfl⟩ := List.exists_cons_of_ne_nil hne
        rw [hr, Option.getD_some] at hbegins
        have heq : d = e := (List.cons_prefix_cons.1 hbegins).1
        exact hw d List.mem_cons_self (heq ▸ hchars e List.mem_cons_self)
  | @char c cs ps hnot h ih =>
    cases w with
    | nil => exact List.nil_prefix
    | cons d w =>
      obtain ⟨rfl, htail⟩ := List.cons_prefix_cons.1 hbegins
      rw [List.mem_cons, not_or] at hbrace
      exact List.cons_prefix_cons.2
        ⟨rfl, ih hbrace.2 (fun c hc => hw c (List.mem_cons_of_mem _ hc)) htail⟩

/-- A written text is read as before, but for the dates in it. -/
theorem written (hdates : AreDates dates) (h : Reads cs ps) :
    Reads (ps.flatMap (Part.written dates)) (ps.flatMap (Part.again dates)) := by
  induction h with
  | nil => exact .nil
  | @mark cs ps m h ih =>
    rw [List.flatMap_cons, List.flatMap_cons, Part.written, Part.again]
    cases hr : dates m with
    | none => exact .mark m ih
    | some r => exact ih.chars (hdates.brace_notMem hr)
  | @char c cs ps hnot h ih =>
    refine .char (fun m hm => hnot m ?_) ih
    rw [Mark.chars_eq] at hm ⊢
    obtain ⟨rfl, htail⟩ := List.cons_prefix_cons.1 hm
    exact List.cons_prefix_cons.2 ⟨rfl, h.prefix_of_written hdates m.brace_notMem_inner
      m.not_isDateChar_of_mem_inner htail⟩

end Reads

/-- One placeholder is written, the other stays. -/
def Dates.only (m : Mark) (r : List Char) : Dates := fun m' => if m' = m then some r else none

/-- What the first leaves as it is, the second writes. -/
def Dates.andThen (first second : Dates) : Dates := fun m => (first m).or (second m)

/-- Replacing a placeholder everywhere is writing it, and leaving the other. -/
theorem replaceAll_eq_substitute (m : Mark) (r cs : List Char) :
    replaceAll m.chars r cs = substitute (.only m r) cs := by
  have hreads := reads_parts cs
  rw [substitute]
  generalize parts cs = ps at hreads
  induction hreads with
  | nil => rfl
  | @mark cs ps m' h ih =>
    rw [List.flatMap_cons, ← ih, Part.written, Dates.only]
    split
    · next heq =>
      subst heq
      rw [Mark.chars_eq, replaceAll_append_self]
      rfl
    · next hne =>
      have hnot : ¬ m.chars <+: '\x7b' :: (m'.inner ++ cs) := by
        intro hbegins
        rw [← List.cons_append, ← Mark.chars_eq] at hbegins
        exact hne (Mark.eq_of_prefix hbegins).symm
      rw [Option.getD_none, Mark.chars_eq m', List.cons_append, replaceAll_cons hnot,
        Mark.chars_eq m, replaceAll_append m'.brace_notMem_inner, List.cons_append]
  | @char c cs ps hnot h ih =>
    rw [List.flatMap_cons, ← ih, replaceAll_cons (hnot m)]
    rfl

theorem substitute_of_reads {dates : Dates} {cs : List Char} {ps : List Part} (h : Reads cs ps) :
    substitute dates cs = ps.flatMap (Part.written dates) := by rw [substitute, h.parts_eq]

/-- Writing twice is writing once. -/
theorem substitute_substitute {first : Dates} (hfirst : AreDates first) (second : Dates)
    (cs : List Char) :
    substitute second (substitute first cs) = substitute (first.andThen second) cs := by
  show substitute second ((parts cs).flatMap (Part.written first)) = _
  rw [substitute_of_reads ((reads_parts cs).written hfirst), substitute, List.flatMap_assoc]
  congr 1
  funext p
  cases p with
  | char c => rfl
  | mark m =>
    rw [Part.again, Part.written, Dates.andThen]
    cases first m with
    | none => simp [Part.written]
    | some r =>
      rw [Option.elim_some, List.flatMap_map, Option.some_or, Option.getD_some]
      exact List.flatMap_singleton' r

/-! ## Placeholders that stay -/

theorem Part.source_again (dates : Dates) (p : Part) :
    (p.again dates).flatMap Part.source = p.written dates := by
  cases p with
  | char c => rfl
  | mark m =>
    rw [Part.again, Part.written]
    cases dates m with
    | none => exact List.append_nil _
    | some r =>
      rw [Option.elim_some, List.flatMap_map, Option.getD_some]
      exact List.flatMap_singleton' r

theorem flatMap_source_again (dates : Dates) (ps : List Part) :
    (ps.flatMap (Part.again dates)).flatMap Part.source = ps.flatMap (Part.written dates) := by
  rw [List.flatMap_assoc]
  exact congrArg (ps.flatMap ·) (funext (Part.source_again dates))

/-- Only a placeholder itself is read as this placeholder once it has been written. -/
theorem Part.mem_again {dates : Dates} {p : Part} {m : Mark} (h : .mark m ∈ p.again dates) :
    p = .mark m ∧ p.again dates = [.mark m] := by
  cases p with
  | char c => cases List.mem_singleton.1 h
  | mark m' =>
    rw [Part.again] at h ⊢
    cases hr : dates m' with
    | none =>
      rw [hr, Option.elim_none, List.mem_singleton] at h
      exact ⟨h.symm, congrArg (fun p => [p]) h.symm⟩
    | some r =>
      rw [hr] at h
      obtain ⟨c, -, hc⟩ := List.mem_map.1 h
      cases hc

theorem exists_append_of_again {dates : Dates} {m : Mark} {ps before behind : List Part}
    (h : ps.flatMap (Part.again dates) = before ++ .mark m :: behind) :
    ∃ ps₁ ps₂, ps = ps₁ ++ .mark m :: ps₂ ∧ ps₁.flatMap (Part.again dates) = before ∧
      ps₂.flatMap (Part.again dates) = behind := by
  induction ps generalizing before with
  | nil => cases before <;> cases h
  | cons p ps ih =>
    rw [List.flatMap_cons] at h
    rcases List.append_eq_append_iff.1 h with ⟨more, hbefore, hrest⟩ | ⟨more, hp, hrest⟩
    · obtain ⟨ps₁, ps₂, rfl, rfl, rfl⟩ := ih hrest
      exact ⟨p :: ps₁, ps₂, rfl, hbefore.symm, rfl⟩
    · cases more with
      | nil =>
        have hnext : ps.flatMap (Part.again dates) = [] ++ .mark m :: behind := hrest.symm
        obtain ⟨ps₁, ps₂, rfl, hnil, rfl⟩ := ih hnext
        refine ⟨p :: ps₁, ps₂, rfl, ?_, rfl⟩
        rw [List.flatMap_cons, hnil, hp]
        simp
      | cons q more =>
        obtain ⟨rfl, hbehind⟩ := List.cons.inj hrest
        have hmem : .mark m ∈ p.again dates := by
          rw [hp]
          exact List.mem_append_right before List.mem_cons_self
        obtain ⟨rfl, hsingle⟩ := Part.mem_again hmem
        rw [hsingle] at hp
        have hlength := congrArg List.length hp
        rw [List.length_singleton, List.length_append, List.length_cons] at hlength
        have hbefore : before = [] := List.eq_nil_of_length_eq_zero (by omega)
        have hmore : more = [] := List.eq_nil_of_length_eq_zero (by omega)
        refine ⟨[], ps, rfl, hbefore.symm, ?_⟩
        rw [hbehind, hmore]
        rfl

theorem substitute_append_mark {dates : Dates} {m : Mark} (h : dates m = none)
    (before behind : List Char) :
    substitute dates (before ++ m.chars ++ behind) =
      substitute dates before ++ m.chars ++ substitute dates behind := by
  rw [substitute_of_reads ((reads_parts before).append_mark m (reads_parts behind)),
    List.flatMap_append, List.flatMap_cons, Part.written, h, Option.getD_none, List.append_assoc]
  rfl

/-- Wherever a placeholder that stays is found in a written text, it was there before, with what
stands in front of it and behind it written on its own. -/
theorem substitute_eq_append_iff {dates : Dates} (hdates : AreDates dates) {m : Mark}
    (hm : dates m = none) (cs before behind : List Char) :
    substitute dates cs = before ++ m.chars ++ behind ↔
      ∃ before' behind', cs = before' ++ m.chars ++ behind' ∧
        substitute dates before' = before ∧ substitute dates behind' = behind := by
  constructor
  · intro h
    have hread := (reads_parts before).append_mark m (reads_parts behind)
    have hwritten := (reads_parts cs).written hdates
    rw [← substitute, h] at hwritten
    obtain ⟨ps₁, ps₂, hparts, hbefore, hbehind⟩ :=
      exists_append_of_again (hwritten.parts_eq.symm.trans hread.parts_eq)
    have hreads := reads_parts cs
    rw [hparts] at hreads
    obtain ⟨before', behind', hcs, h₁, h₂⟩ := hreads.exists_append
    refine ⟨before', behind', hcs, ?_, ?_⟩
    · rw [substitute_of_reads h₁, ← flatMap_source_again, hbefore, (reads_parts before).source]
    · rw [substitute_of_reads h₂, ← flatMap_source_again, hbehind, (reads_parts behind).source]
  · rintro ⟨before', behind', rfl, rfl, rfl⟩
    exact substitute_append_mark hm before' behind'

theorem not_infix_substitute {dates : Dates} (hdates : AreDates dates) {m : Mark}
    (hm : (dates m).isSome) (cs : List Char) : ¬ m.chars <:+: substitute dates cs := by
  rw [substitute, ((reads_parts cs).written hdates).infix_iff m]
  intro hmem
  obtain ⟨p, -, hp⟩ := List.mem_flatMap.1 hmem
  obtain ⟨rfl, hsingle⟩ := Part.mem_again hp
  rw [Part.again] at hsingle
  cases hr : dates m with
  | none =>
    rw [hr] at hm
    cases hm
  | some r =>
    rw [hr] at hsingle
    obtain ⟨c, -, hc⟩ := List.mem_map.1 (hsingle ▸ List.mem_singleton_self (Part.mark m))
    cases hc

/-! ## Rendering -/

theorem isDateChar_of_mem_paddedDecimal {width n : Nat} :
    ∀ c ∈ paddedDecimal width n, IsDateChar c := by
  rw [paddedDecimal]
  refine List.forall_mem_append.2 ⟨fun c hc => ?_, forall_mem_decimal (by decide) n⟩
  rw [List.eq_of_mem_replicate hc]
  decide

theorem isDateChar_of_mem_yearText {year : Int} : ∀ c ∈ Instant.yearText year, IsDateChar c := by
  unfold Instant.yearText
  split
  · exact List.forall_mem_cons.2 ⟨by decide, isDateChar_of_mem_paddedDecimal⟩
  split
  · exact List.forall_mem_cons.2 ⟨by decide, forall_mem_decimal (by decide) _⟩
  · exact isDateChar_of_mem_paddedDecimal

theorem isDateChar_of_mem_dateText (t : Instant) : ∀ c ∈ t.dateText.toList, IsDateChar c := by
  rw [Instant.dateText, String.toList_ofList, Instant.dateChars]
  have hdash : IsDateChar '-' := by decide
  exact List.forall_mem_append.2 ⟨List.forall_mem_append.2 ⟨isDateChar_of_mem_yearText,
    List.forall_mem_cons.2 ⟨hdash, isDateChar_of_mem_paddedDecimal⟩⟩,
    List.forall_mem_cons.2 ⟨hdash, isDateChar_of_mem_paddedDecimal⟩⟩

theorem dateText_ne_nil (t : Instant) : t.dateText.toList ≠ [] := by
  intro h
  have hblank := dateText_not_blank t
  rw [h] at hblank
  cases hblank

/-- The dates that a template is rendered with. -/
def datesOf (lastActivity : Instant) (closeDate? : Option Instant) : Dates
  | .lastActivity => some lastActivity.dateText.toList
  | .closeDate => closeDate?.map (·.dateText.toList)

theorem areDates_datesOf (lastActivity : Instant) (closeDate? : Option Instant) :
    AreDates (datesOf lastActivity closeDate?) := by
  intro m r h
  obtain ⟨t, rfl⟩ : ∃ t : Instant, r = t.dateText.toList := by
    cases m with
    | lastActivity => exact ⟨lastActivity, (Option.some.inj h).symm⟩
    | closeDate =>
      obtain ⟨t, -, ht⟩ := Option.map_eq_some_iff.1 h
      exact ⟨t, ht.symm⟩
  exact ⟨dateText_ne_nil t, isDateChar_of_mem_dateText t⟩

theorem areDates_only (m : Mark) (t : Instant) : AreDates (.only m t.dateText.toList) := by
  intro m' r h
  unfold Dates.only at h
  split at h
  · cases h
    exact ⟨dateText_ne_nil t, isDateChar_of_mem_dateText t⟩
  · cases h

/-- Two replacements, one after the other, are one substitution. -/
theorem replaceAll_replaceAll (m m' : Mark) (t t' : Instant) (cs : List Char) :
    replaceAll m'.chars t'.dateText.toList (replaceAll m.chars t.dateText.toList cs) =
      substitute ((Dates.only m t.dateText.toList).andThen (.only m' t'.dateText.toList)) cs := by
  rw [replaceAll_eq_substitute, replaceAll_eq_substitute,
    substitute_substitute (areDates_only m t)]

theorem toList_render (template : String) (lastActivity : Instant) (closeDate? : Option Instant) :
    (render template lastActivity closeDate?).toList =
      substitute (datesOf lastActivity closeDate?) template.toList := by
  cases closeDate? with
  | none =>
    have hdates : Dates.only .lastActivity lastActivity.dateText.toList =
        datesOf lastActivity none := by
      funext m
      cases m <;> rfl
    rw [render, String.toList_ofList, ← hdates]
    exact replaceAll_eq_substitute .lastActivity _ _
  | some closeDate =>
    have hdates : (Dates.only .lastActivity lastActivity.dateText.toList).andThen
        (.only .closeDate closeDate.dateText.toList) = datesOf lastActivity (some closeDate) := by
      funext m
      cases m <;> rfl
    rw [render, String.toList_ofList, ← hdates]
    exact replaceAll_replaceAll .lastActivity .closeDate _ _ _

theorem render_eq_replaceAll_swapped (template : String) (lastActivity closeDate : Instant) :
    (render template lastActivity (some closeDate)).toList =
      replaceAll lastActivityMark lastActivity.dateText.toList
        (replaceAll closeDateMark closeDate.dateText.toList template.toList) := by
  have hdates : (Dates.only .closeDate closeDate.dateText.toList).andThen
      (.only .lastActivity lastActivity.dateText.toList) =
        datesOf lastActivity (some closeDate) := by
    funext m
    cases m <;> rfl
  rw [toList_render, ← hdates]
  exact (replaceAll_replaceAll .closeDate .lastActivity _ _ _).symm

/-- A template without a close date keeps the placeholders for it, and gets no others. -/
theorem render_none_eq_append_iff {template before behind : String} {lastActivity : Instant} :
    render template lastActivity none = before ++ String.ofList closeDateMark ++ behind ↔
      ∃ before' behind', template = before' ++ String.ofList closeDateMark ++ behind' ∧
        render before' lastActivity none = before ∧ render behind' lastActivity none = behind := by
  have hiff := substitute_eq_append_iff (areDates_datesOf lastActivity none) (m := .closeDate) rfl
    template.toList before.toList behind.toList
  simp only [← String.toList_inj, String.toList_append, String.toList_ofList, toList_render]
  refine hiff.trans ⟨?_, ?_⟩
  · rintro ⟨before', behind', hcs, hbefore, hbehind⟩
    refine ⟨String.ofList before', String.ofList behind', ?_⟩
    simp only [String.toList_ofList]
    exact ⟨hcs, hbefore, hbehind⟩
  · rintro ⟨before', behind', hcs, hbefore, hbehind⟩
    exact ⟨before'.toList, behind'.toList, hcs, hbefore, hbehind⟩

theorem commentAction_eq_removeComment_iff {kind : CommentKind} {body : String} :
    commentAction kind body = .removeComment ↔ isBlankText body = true := by
  unfold commentAction
  split
  · next h => exact iff_of_true rfl h
  · next h => exact iff_of_false nofun h

/-- Rendering a template is reading it once, from left to right, and writing a date for every
placeholder that is met.

Every placeholder in the template is met, whatever stands around it, and what is between them is
written as it was read. With a close date it makes no difference which placeholder is replaced
first, and none is left; without one the placeholders of the close date are exactly those of the
template. The text is blank exactly if the template is, and the comment is removed exactly then. -/
theorem render_at_once (template : String) (lastActivity : Instant) :
    ((parts template.toList).flatMap Part.source = template.toList ∧
      ∀ (m : Mark) (before behind : List Char), template.toList = before ++ m.chars ++ behind →
        parts template.toList = parts before ++ .mark m :: parts behind) ∧
    (∀ closeDate : Instant,
      (render template lastActivity (some closeDate)).toList =
        (parts template.toList).flatMap
          (Part.written (datesOf lastActivity (some closeDate))) ∧
      (render template lastActivity (some closeDate)).toList =
        replaceAll lastActivityMark lastActivity.dateText.toList
          (replaceAll closeDateMark closeDate.dateText.toList template.toList) ∧
      ∀ m : Mark, ¬ m.chars <:+: (render template lastActivity (some closeDate)).toList) ∧
    ((render template lastActivity none).toList =
        (parts template.toList).flatMap (Part.written (datesOf lastActivity none)) ∧
      ¬ lastActivityMark <:+: (render template lastActivity none).toList ∧
      ∀ before behind : String,
        render template lastActivity none = before ++ String.ofList closeDateMark ++ behind ↔
          ∃ before' behind', template = before' ++ String.ofList closeDateMark ++ behind' ∧
            render before' lastActivity none = before ∧
            render behind' lastActivity none = behind) ∧
    ∀ (closeDate? : Option Instant) (kind : CommentKind),
      isBlankText (render template lastActivity closeDate?) = isBlankText template ∧
      (commentAction kind (render template lastActivity closeDate?) = .removeComment ↔
        isBlankText template = true) := by
  refine ⟨⟨(reads_parts _).source, ?_⟩, ?_, ⟨toList_render .., ?_, ?_⟩, ?_⟩
  · intro m before behind h
    rw [h]
    exact ((reads_parts before).append_mark m (reads_parts behind)).parts_eq
  · intro closeDate
    refine ⟨toList_render .., render_eq_replaceAll_swapped .., fun m => ?_⟩
    rw [toList_render]
    exact not_infix_substitute (areDates_datesOf _ _) (by cases m <;> rfl) _
  · rw [toList_render]
    exact not_infix_substitute (m := .lastActivity) (areDates_datesOf _ _) rfl _
  · exact fun before behind => render_none_eq_append_iff
  · intro closeDate? kind
    have hblank := isBlankText_render template lastActivity closeDate?
    exact ⟨hblank, by rw [commentAction_eq_removeComment_iff, hblank]⟩

end Upkeep.Template
