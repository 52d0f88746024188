import Upkeep.Proofs.Text.Blank
import Upkeep.Proofs.Time.DelayText
/-!
# Delays that are written and read back

A delay is written as groups, one for each unit that it holds any of, with the delay as their sum
(`groups_eq`). Reading it back therefore gives the delay, or the report that it is too large
(`parse_text`). The groups can be told from the text (`textOf_injective`), so that different delays
have different texts, those that are too large included.
-/

namespace Upkeep.Delay

/-! ## The groups of a delay -/

/-- A number of units. -/
def Group.ofNat (n : Nat) (u : TimeUnit) : Group where
  digits := decimal n
  unit := u
  digits_ne_nil := decimal_ne_nil n
  isDigit_of_mem := forall_mem_decimal (by decide) n

theorem Group.seconds_ofNat (n : Nat) (u : TimeUnit) :
    (Group.ofNat n u).seconds = n * u.seconds := by
  simp [Group.seconds, Group.number, Group.ofNat, digitsValue_decimal]

/-- The group for a number of units, if there are any. -/
def groupsOf (n : Nat) (u : TimeUnit) : List Group := if n = 0 then [] else [Group.ofNat n u]

theorem textOf_groupsOf (n : Nat) (u : TimeUnit) : textOf (groupsOf n u) = group n u.letter := by
  unfold groupsOf group
  split
  · rfl
  · simp [Group.text, Group.ofNat]

theorem secondsOf_groupsOf (n : Nat) (u : TimeUnit) :
    secondsOf (groupsOf n u) = n * u.seconds := by
  unfold groupsOf
  split
  · next h => simp [h]
  · simp [Group.seconds_ofNat]

/-- A delay is written in groups that make it up. -/
theorem groups_eq (n : Nat) : ∃ gs, groups n = textOf gs ∧ secondsOf gs = n := by
  refine ⟨groupsOf (n / 86400) .day ++ groupsOf (n % 86400 / 3600) .hour ++
    groupsOf (n % 3600 / 60) .minute ++ groupsOf (n % 60) .second, ?_, ?_⟩
  · simp only [textOf_append, textOf_groupsOf]
    rfl
  · simp only [secondsOf_append, secondsOf_groupsOf, TimeUnit.seconds]
    omega

/-- The groups of a delay other than the zero delay, and that there are any. -/
theorem exists_groups_of_pos {d : Delay} (h : d.seconds ≠ 0) :
    ∃ gs ≠ [], d.text.toList = textOf gs ∧ secondsOf gs = d.seconds := by
  obtain ⟨gs, htext, hsum⟩ := groups_eq d.seconds
  refine ⟨gs, ?_, ?_, hsum⟩
  · rintro rfl
    exact h hsum.symm
  · rw [text, if_neg h, String.toList_ofList, htext]

/-! ## Nothing is trimmed -/

theorem isBlank_letter (u : TimeUnit) : isBlank u.letter = false := by
  cases u <;> decide

theorem isBlank_of_mem_textOf {gs : List Group} {c : Char} (h : c ∈ textOf gs) :
    isBlank c = false := by
  obtain ⟨g, -, hc⟩ := List.mem_flatMap.1 h
  rcases List.mem_append.1 hc with hc | hc
  · exact isBlank_of_isDigit (g.isDigit_of_mem c hc)
  · rw [List.mem_singleton.1 hc]
    exact isBlank_letter g.unit

/-! ## Reading a written delay -/

/-- A written delay is read back, or is too large. -/
theorem parse_text (d : Delay) : parse d.text =
    if d.seconds ≤ 100 * 365 * 24 * 60 * 60 then .ok d else .error (.tooLarge d.text) := by
  by_cases hzero : d.seconds = 0
  · obtain rfl : d = zero := congrArg Delay.mk hzero
    rfl
  · obtain ⟨gs, hgs, htext, hsum⟩ := exists_groups_of_pos hzero
    have htrim : trimChars d.text.toList = textOf gs := by
      rw [htext]
      exact (trims_of_not_isBlank fun c hc => isBlank_of_mem_textOf hc).trimChars_eq
    split
    · next hmax =>
      refine parse_of_denotes (.inr ⟨gs, hgs, htrim, hsum.symm, ?_⟩)
      rwa [hsum]
    · next habove =>
      refine parse_of_rejected ?_
      rw [htrim]
      by_cases hfits : Fits gs
      · exact .aboveMax hfits (by omega)
      · -- Delays of more than 64 bits end with the group that overflows.
        obtain ⟨before, g, after, rfl, hbefore, hover⟩ := exists_first_overflow hfits
        have hrejected := Rejected.overflow (s := d.text) (textOf after) hbefore hover
        simpa using hrejected

/-- A text that is read stands for no more than a hundred years. -/
theorem seconds_le_of_parse {s : String} {d : Delay} (h : parse s = .ok d) :
    d.seconds ≤ 100 * 365 * 24 * 60 * 60 := by
  rcases denotes_of_parse h with ⟨-, hzero⟩ | ⟨gs, -, -, hsum, hmax⟩
  · omega
  · omega

/-! ## The groups of a text -/

theorem letter_injective {u v : TimeUnit} (h : u.letter = v.letter) : u = v := by
  revert h
  cases u <;> cases v <;> decide

/-- Digits end where the first character stands that is none. -/
theorem takeWhile_digits {ds : List Char} (h : ∀ c ∈ ds, c.isDigit = true) (u : TimeUnit)
    (rest : List Char) : (ds ++ u.letter :: rest).takeWhile Char.isDigit = ds := by
  rw [List.takeWhile_append_of_pos h, List.takeWhile_cons_of_neg, List.append_nil]
  simp [u.isDigit_letter]

/-- The groups can be told from their text. -/
theorem textOf_injective {gs hs : List Group} (h : textOf gs = textOf hs) : gs = hs := by
  induction gs generalizing hs with
  | nil =>
    cases hs with
    | nil => rfl
    | cons g hs => simp [Group.text] at h
  | cons g gs ih =>
    cases hs with
    | nil => simp [Group.text] at h
    | cons g' hs =>
      simp only [textOf_cons, Group.text, List.append_assoc, List.singleton_append] at h
      have hdigits : g.digits = g'.digits := by
        have htake := congrArg (List.takeWhile Char.isDigit) h
        rwa [takeWhile_digits g.isDigit_of_mem, takeWhile_digits g'.isDigit_of_mem] at htake
      rw [hdigits, List.append_cancel_left_eq, List.cons.injEq] at h
      obtain ⟨hletter, hrest⟩ := h
      obtain ⟨digits, unit, _, _⟩ := g
      obtain ⟨digits', unit', _, _⟩ := g'
      obtain rfl : digits = digits' := hdigits
      obtain rfl := letter_injective hletter
      rw [ih hrest]

/-- Only the zero delay is written without a unit. -/
theorem text_ne_zero {d : Delay} (h : d.seconds ≠ 0) : d.text ≠ "0" := by
  intro hzero
  obtain ⟨gs, hgs, htext, -⟩ := exists_groups_of_pos h
  obtain ⟨g, hg⟩ := List.exists_mem_of_ne_nil gs hgs
  have hmem := letter_mem_textOf hg
  rw [← htext, hzero] at hmem
  have hdigit := g.unit.isDigit_letter
  rw [List.mem_singleton.1 hmem] at hdigit
  exact absurd hdigit (by decide)

/-- Different delays have different texts. -/
theorem text_injective : Function.Injective text := by
  intro d e h
  by_cases hd : d.seconds = 0
  · by_cases he : e.seconds = 0
    · exact congrArg Delay.mk (hd.trans he.symm)
    · refine absurd ?_ (text_ne_zero he)
      rw [← h, text, if_pos hd]
  · by_cases he : e.seconds = 0
    · refine absurd ?_ (text_ne_zero hd)
      rw [h, text, if_pos he]
    · obtain ⟨gs, -, hgs, hsum⟩ := exists_groups_of_pos hd
      obtain ⟨hs, -, hhs, hsum'⟩ := exists_groups_of_pos he
      obtain rfl : gs = hs := textOf_injective (by rw [← hgs, ← hhs, h])
      exact congrArg Delay.mk (hsum.symm.trans hsum')

/-- A written delay reads as itself, or as too large beyond a hundred years; no two delays have the
same text; and what a text was read as is written so that it reads the same. -/
theorem written_read_back :
    (∀ n, parse (text ⟨n⟩) =
      if n ≤ 100 * 365 * 24 * 60 * 60 then .ok ⟨n⟩ else .error (.tooLarge (text ⟨n⟩))) ∧
    Function.Injective text ∧
    ∀ s d, parse s = .ok d → parse d.text = .ok d := by
  refine ⟨fun n => parse_text ⟨n⟩, text_injective, ?_⟩
  intro s d h
  rw [parse_text, if_pos (seconds_le_of_parse h)]

/-- Hours beyond a day, with a leading zero and blanks around them. -/
theorem written_read_back_hours :
    parse " 036h\n" = .ok ⟨129600⟩ ∧ text ⟨129600⟩ = "1d12h" ∧ parse "1d12h" = .ok ⟨129600⟩ := by
  have hread : parse " 036h\n" = .ok ⟨129600⟩ := by decide
  have htext : text ⟨129600⟩ = "1d12h" := by decide +kernel
  exact ⟨hread, htext, htext ▸ written_read_back.2.2 _ _ hread⟩

end Upkeep.Delay
