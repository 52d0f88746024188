import Upkeep.Proofs.Text.Numeral
import Upkeep.Time.Delay
import Mathlib.Data.List.Induction
/-!
# The texts of delays

A delay text is a bare `0`, or groups of digits and a unit whose sum is within a hundred years
(`Denotes`). A text that is none has one first fault from the left (`Rejected`). The reader computes
with numbers below 2 ^ 64, and nevertheless accepts exactly the delay texts and names exactly the
first fault of the others (`parse_reads`).
-/

namespace Upkeep.Delay

/-! ## Groups -/

/-- The units of a delay text. -/
inductive TimeUnit
  | day
  | hour
  | minute
  | second
deriving DecidableEq

namespace TimeUnit

def letter : TimeUnit → Char
  | day => 'd'
  | hour => 'h'
  | minute => 'm'
  | second => 's'

def seconds : TimeUnit → Nat
  | day => 24 * 60 * 60
  | hour => 60 * 60
  | minute => 60
  | second => 1

theorem seconds_pos (u : TimeUnit) : 0 < u.seconds := by
  cases u <;> decide

theorem isDigit_letter (u : TimeUnit) : u.letter.isDigit = false := by
  cases u <;> decide

theorem unitSeconds?_letter (u : TimeUnit) : unitSeconds? u.letter = some u.seconds := by
  cases u <;> rfl

theorem unitSeconds?_eq_none {c : Char} (h : ∀ u : TimeUnit, u.letter ≠ c) :
    unitSeconds? c = none := by
  unfold unitSeconds?
  split
  · exact absurd rfl (h day)
  · exact absurd rfl (h hour)
  · exact absurd rfl (h minute)
  · exact absurd rfl (h second)
  · rfl

end TimeUnit

/-- A group of a delay text: one or more digits, and a unit. -/
structure Group where
  digits : List Char
  unit : TimeUnit
  digits_ne_nil : digits ≠ []
  isDigit_of_mem : ∀ c ∈ digits, c.isDigit = true

namespace Group

def text (g : Group) : List Char := g.digits ++ [g.unit.letter]

def number (g : Group) : Nat := digitsValue g.digits

def seconds (g : Group) : Nat := g.number * g.unit.seconds

/-- The number of the group, its seconds or the running total behind it do not fit in 64 bits. -/
def Overflows (total : Nat) (g : Group) : Prop :=
  wordLimit ≤ g.number ∨ wordLimit ≤ g.seconds ∨ wordLimit ≤ total + g.seconds

theorem number_le_seconds (g : Group) : g.number ≤ g.seconds :=
  Nat.le_mul_of_pos_right _ g.unit.seconds_pos

/-- The running total is the largest of the three numbers. -/
theorem overflows_iff {total : Nat} {g : Group} :
    g.Overflows total ↔ wordLimit ≤ total + g.seconds := by
  have hnumber := g.number_le_seconds
  unfold Overflows
  omega

end Group

/-- The text of groups that follow each other. -/
def textOf (gs : List Group) : List Char := gs.flatMap Group.text

/-- The seconds of groups together. -/
def secondsOf : List Group → Nat
  | [] => 0
  | g :: gs => g.seconds + secondsOf gs

@[simp] theorem textOf_nil : textOf [] = [] := rfl

@[simp] theorem textOf_cons (g : Group) (gs : List Group) :
    textOf (g :: gs) = g.text ++ textOf gs :=
  rfl

@[simp] theorem textOf_append (gs hs : List Group) : textOf (gs ++ hs) = textOf gs ++ textOf hs :=
  List.flatMap_append

@[simp] theorem secondsOf_nil : secondsOf [] = 0 := rfl

@[simp] theorem secondsOf_cons (g : Group) (gs : List Group) :
    secondsOf (g :: gs) = g.seconds + secondsOf gs :=
  rfl

@[simp] theorem secondsOf_append (gs hs : List Group) :
    secondsOf (gs ++ hs) = secondsOf gs + secondsOf hs := by
  induction gs with
  | nil => simp
  | cons g gs ih => simp [ih, Nat.add_assoc]

theorem letter_mem_textOf {g : Group} {gs : List Group} (h : g ∈ gs) :
    g.unit.letter ∈ textOf gs := by
  refine List.mem_flatMap.2 ⟨g, h, ?_⟩
  simp [Group.text]

/-! ## Delay texts -/

/-- A text without blanks around it stands for a number of seconds. -/
def Denotes (t : List Char) (seconds : Nat) : Prop :=
  (t = ['0'] ∧ seconds = 0) ∨
    ∃ gs ≠ [], t = textOf gs ∧ seconds = secondsOf gs ∧ secondsOf gs ≤ 100 * 365 * 24 * 60 * 60

/-- No group overflows, the total of those in front of it given. -/
def Fits (gs : List Group) : Prop :=
  ∀ before g after, gs = before ++ g :: after → ¬ g.Overflows (secondsOf before)

/-- What is wrong with a text without blanks around it, by the first fault from the left. The error
carries the whole text `s`. -/
inductive Rejected (s : String) : List Char → DelayError → Prop
  | empty : Rejected s [] .empty
  /-- Behind groups and perhaps digits stands a character that is neither digit nor unit. -/
  | unknownUnit {gs : List Group} {digits : List Char} {c : Char} (rest : List Char)
      (hfits : Fits gs) (hdigits : ∀ d ∈ digits, d.isDigit = true) (hc : c.isDigit = false)
      (hunit : ∀ u : TimeUnit, u.letter ≠ c) :
      Rejected s (textOf gs ++ digits ++ c :: rest) (.unknownUnit s c)
  /-- Behind groups stands a unit without a number. -/
  | missingValue {gs : List Group} (u : TimeUnit) (rest : List Char) (hfits : Fits gs) :
      Rejected s (textOf gs ++ u.letter :: rest) (.missingValue s)
  /-- A group overflows, whatever stands behind it. -/
  | overflow {gs : List Group} {g : Group} (rest : List Char) (hfits : Fits gs)
      (hover : g.Overflows (secondsOf gs)) :
      Rejected s (textOf gs ++ g.text ++ rest) (.tooLarge s)
  /-- The text ends with a number, and is not the bare zero. -/
  | missingUnit {gs : List Group} {digits : List Char} (hfits : Fits gs) (hne : digits ≠ [])
      (hdigits : ∀ d ∈ digits, d.isDigit = true) (hzero : textOf gs ++ digits ≠ ['0']) :
      Rejected s (textOf gs ++ digits) (.missingUnit s)
  /-- The groups are more than a hundred years. -/
  | aboveMax {gs : List Group} (hfits : Fits gs)
      (habove : 100 * 365 * 24 * 60 * 60 < secondsOf gs) :
      Rejected s (textOf gs) (.tooLarge s)

/-- The groups fit exactly if their sum does. -/
theorem fits_iff {gs : List Group} : Fits gs ↔ secondsOf gs < wordLimit := by
  constructor
  · intro h
    rcases List.eq_nil_or_concat gs with rfl | ⟨before, g, rfl⟩
    · decide
    · have hlast := h before g [] (by simp)
      rw [Group.overflows_iff] at hlast
      simpa using hlast
  · rintro h before g after rfl
    rw [Group.overflows_iff]
    simp at h
    omega

/-- Of groups that do not fit there is a first one that overflows. -/
theorem exists_first_overflow {gs : List Group} (h : ¬ Fits gs) :
    ∃ before g after, gs = before ++ g :: after ∧ Fits before ∧ g.Overflows (secondsOf before) := by
  induction gs using List.reverseRecOn with
  | nil => exact absurd (fits_iff.2 (by decide)) h
  | append_singleton gs g ih =>
    by_cases hfits : Fits gs
    · refine ⟨gs, g, [], rfl, hfits, ?_⟩
      rw [fits_iff] at h
      rw [Group.overflows_iff]
      simpa using h
    · obtain ⟨before, first, after, rfl, hbefore, hover⟩ := ih hfits
      exact ⟨before, first, after ++ [g], by simp, hbefore, hover⟩

/-! ## The scan -/

variable {s : String} {total : Nat}

theorem scan_digit {c : Char} (hc : c.isDigit = true) (pending : Option Nat) (cs : List Char) :
    scan s total pending (c :: cs) =
      scan s total (some (pending.getD 0 * 10 + digitValue c)) cs := by
  cases pending <;> simp [scan, hc]

theorem scan_unknown {c : Char} (hc : c.isDigit = false) (hunit : ∀ u : TimeUnit, u.letter ≠ c)
    (pending : Option Nat) (cs : List Char) :
    scan s total pending (c :: cs) = .error (.unknownUnit s c) := by
  cases pending <;> simp [scan, hc, TimeUnit.unitSeconds?_eq_none hunit]

theorem scan_letter_none (u : TimeUnit) (cs : List Char) :
    scan s total none (u.letter :: cs) = .error (.missingValue s) := by
  simp [scan, u.isDigit_letter, u.unitSeconds?_letter]

theorem scan_letter_some (u : TimeUnit) (v : Nat) (cs : List Char) :
    scan s total (some v) (u.letter :: cs) =
      match addGroup? total v u.seconds with
      | none => .error (.tooLarge s)
      | some total => scan s total none cs := by
  cases hgroup : addGroup? total v u.seconds with
  | none => simp [scan, hgroup, u.isDigit_letter, u.unitSeconds?_letter]
  | some total => simp [scan, hgroup, u.isDigit_letter, u.unitSeconds?_letter]

theorem scan_pending {ds : List Char} (h : ∀ c ∈ ds, c.isDigit = true) (v : Nat)
    (rest : List Char) : scan s total (some v) (ds ++ rest) =
      scan s total (some (ds.foldl (fun v c => v * 10 + digitValue c) v)) rest := by
  induction ds generalizing v with
  | nil => rfl
  | cons c ds ih =>
    obtain ⟨hc, hds⟩ := List.forall_mem_cons.1 h
    rw [List.cons_append, scan_digit hc, Option.getD_some, ih hds, List.foldl_cons]

/-- Digits are taken together as one number. -/
theorem scan_digits {ds : List Char} (hne : ds ≠ []) (h : ∀ c ∈ ds, c.isDigit = true)
    (rest : List Char) :
    scan s total none (ds ++ rest) = scan s total (some (digitsValue ds)) rest := by
  cases ds with
  | nil => exact absurd rfl hne
  | cons c ds =>
    obtain ⟨hc, hds⟩ := List.forall_mem_cons.1 h
    rw [List.cons_append, scan_digit hc, Option.getD_none, scan_pending hds, digitsValue,
      List.foldl_cons]

theorem addGroup?_of_overflows {g : Group} (h : g.Overflows total) :
    addGroup? total g.number g.unit.seconds = none := by
  unfold Group.Overflows Group.seconds at h
  unfold addGroup?
  rw [if_neg]
  omega

theorem addGroup?_of_not_overflows {g : Group} (h : ¬ g.Overflows total) :
    addGroup? total g.number g.unit.seconds = some (total + g.seconds) := by
  unfold Group.Overflows Group.seconds at h
  unfold addGroup? Group.seconds
  rw [if_pos]
  omega

theorem scan_group (g : Group) (rest : List Char) : scan s total none (g.text ++ rest) =
    match addGroup? total g.number g.unit.seconds with
    | none => .error (.tooLarge s)
    | some total => scan s total none rest := by
  rw [Group.text, List.append_assoc, scan_digits g.digits_ne_nil g.isDigit_of_mem,
    List.singleton_append]
  exact scan_letter_some g.unit g.number rest

/-- Groups that fit are added up. -/
theorem scan_groups {gs : List Group} (h : Fits gs) (rest : List Char) :
    scan s 0 none (textOf gs ++ rest) = scan s (secondsOf gs) none rest := by
  induction gs using List.reverseRecOn generalizing rest with
  | nil => rfl
  | append_singleton gs g ih =>
    have hlast : ¬ g.Overflows (secondsOf gs) := h gs g [] rfl
    have hfits : Fits gs := by
      rw [fits_iff] at h ⊢
      simp at h
      omega
    simp only [textOf_append, List.append_assoc, textOf_cons, textOf_nil, List.append_nil]
    rw [ih hfits, scan_group, addGroup?_of_not_overflows hlast]
    simp

theorem parse_empty (h : trimChars s.toList = []) : parse s = .error .empty := by
  simp [parse, h]

/-- Only the bare zero is not scanned. -/
theorem parse_eq_scan (hne : trimChars s.toList ≠ []) (hzero : trimChars s.toList ≠ ['0']) :
    parse s = scan s 0 none (trimChars s.toList) := by
  unfold parse
  split
  · next h => exact absurd h hne
  · next h => exact absurd h hzero
  · rfl

theorem parse_of_nonDigit {c : Char} (hmem : c ∈ trimChars s.toList) (hc : c.isDigit = false) :
    parse s = scan s 0 none (trimChars s.toList) := by
  refine parse_eq_scan (List.ne_nil_of_mem hmem) ?_
  intro h
  rw [h, List.mem_singleton] at hmem
  rw [hmem] at hc
  exact absurd hc (by decide)

/-- Groups that fit and end the text are added up, and only the sum counts. -/
theorem parse_textOf {gs : List Group} (ht : trimChars s.toList = textOf gs) (hne : gs ≠ [])
    (hfits : Fits gs) : parse s = scan s (secondsOf gs) none [] := by
  obtain ⟨g, hg⟩ := List.exists_mem_of_ne_nil gs hne
  rw [parse_of_nonDigit (ht ▸ letter_mem_textOf hg) g.unit.isDigit_letter, ht]
  simpa using scan_groups hfits []

/-! ## What the reader makes of a text -/

/-- A text is digits and a rest that does not start with one. -/
theorem exists_digits (t : List Char) : ∃ digits rest, t = digits ++ rest ∧
    (∀ d ∈ digits, d.isDigit = true) ∧ ∀ c ∈ rest.head?, c.isDigit = false := by
  refine ⟨t.takeWhile Char.isDigit, t.dropWhile Char.isDigit, List.takeWhile_append_dropWhile.symm,
    List.all_eq_true.1 List.all_takeWhile, ?_⟩
  intro c hc
  have hhead := List.head?_dropWhile_not Char.isDigit t
  rw [Option.mem_def.1 hc] at hhead
  simpa using hhead

/-- Every text is groups, digits and a rest that starts with no digit, and with no unit that the
digits could stand before. -/
theorem exists_groups (t : List Char) : ∃ gs digits rest, t = textOf gs ++ digits ++ rest ∧
    (∀ d ∈ digits, d.isDigit = true) ∧
    ∀ c ∈ rest.head?, c.isDigit = false ∧ ∀ u : TimeUnit, u.letter = c → digits = [] := by
  induction hn : t.length using Nat.strongRecOn generalizing t with
  | ind n ih =>
    obtain ⟨digits, rest, rfl, hdigits, hrest⟩ := exists_digits t
    by_cases hgroup : digits ≠ [] ∧ ∃ u : TimeUnit, ∃ after, rest = u.letter :: after
    · -- A group has been found, and what is behind it is shorter.
      obtain ⟨hne, u, after, rfl⟩ := hgroup
      have hlength : after.length < n := by
        simp at hn
        omega
      obtain ⟨gs, digits', rest', rfl, hdigits', hrest'⟩ := ih _ hlength after rfl
      refine ⟨⟨digits, u, hne, hdigits⟩ :: gs, digits', rest', ?_, hdigits', hrest'⟩
      simp [Group.text]
    · refine ⟨[], digits, rest, rfl, hdigits, fun c hc => ⟨hrest c hc, ?_⟩⟩
      rintro u rfl
      by_contra hne
      obtain ⟨after, rfl⟩ := List.head?_eq_some_iff.1 hc
      exact hgroup ⟨hne, u, after, rfl⟩

/-- Every text is a delay text or has a fault. -/
theorem denotes_or_rejected (s : String) (t : List Char) :
    (∃ n, Denotes t n) ∨ ∃ e, Rejected s t e := by
  obtain ⟨gs, digits, rest, rfl, hdigits, hrest⟩ := exists_groups t
  by_cases hfits : Fits gs
  · cases rest with
    | nil =>
      rw [List.append_nil]
      by_cases hne : digits = []
      · subst hne
        rw [List.append_nil]
        rcases eq_or_ne gs [] with rfl | hgs
        · exact .inr ⟨_, .empty⟩
        · rcases Nat.lt_or_ge (100 * 365 * 24 * 60 * 60) (secondsOf gs) with habove | hmax
          · exact .inr ⟨_, .aboveMax hfits habove⟩
          · exact .inl ⟨_, .inr ⟨gs, hgs, rfl, rfl, hmax⟩⟩
      · by_cases hzero : textOf gs ++ digits = ['0']
        · exact .inl ⟨0, .inl ⟨hzero, rfl⟩⟩
        · exact .inr ⟨_, .missingUnit hfits hne hdigits hzero⟩
    | cons c after =>
      obtain ⟨hc, hletter⟩ := hrest c rfl
      by_cases hunit : ∃ u : TimeUnit, u.letter = c
      · obtain ⟨u, rfl⟩ := hunit
        rw [hletter u rfl, List.append_nil]
        exact .inr ⟨_, .missingValue u after hfits⟩
      · exact .inr ⟨_, .unknownUnit after hfits hdigits hc fun u hu => hunit ⟨u, hu⟩⟩
  · obtain ⟨before, g, behind, rfl, hbefore, hover⟩ := exists_first_overflow hfits
    have hover := Rejected.overflow (s := s) (textOf behind ++ digits ++ rest) hbefore hover
    exact .inr ⟨_, by simpa using hover⟩

theorem parse_of_denotes {n : Nat} (h : Denotes (trimChars s.toList) n) : parse s = .ok ⟨n⟩ := by
  rcases h with ⟨ht, rfl⟩ | ⟨gs, hgs, ht, rfl, hmax⟩
  · rw [parse, ht]
    rfl
  · have hfits : Fits gs := fits_iff.2 (Nat.lt_of_le_of_lt hmax (by decide))
    rw [parse_textOf ht hgs hfits, scan, if_neg]
    exact Nat.not_lt.2 hmax

theorem parse_of_rejected {e : DelayError} (h : Rejected s (trimChars s.toList) e) :
    parse s = .error e := by
  generalize ht : trimChars s.toList = t at h
  cases h with
  | empty => exact parse_empty ht
  | @unknownUnit gs digits c rest hfits hdigits hc hunit =>
    rw [parse_of_nonDigit (c := c) (by simp [ht]) hc, ht, List.append_assoc, scan_groups hfits]
    rcases eq_or_ne digits [] with rfl | hne
    · rw [List.nil_append, scan_unknown hc hunit]
    · rw [scan_digits hne hdigits, scan_unknown hc hunit]
  | @missingValue gs u rest hfits =>
    rw [parse_of_nonDigit (c := u.letter) (by simp [ht]) u.isDigit_letter, ht, scan_groups hfits,
      scan_letter_none]
  | @overflow gs g rest hfits hover =>
    have hmem : g.unit.letter ∈ trimChars s.toList := by simp [ht, Group.text]
    rw [parse_of_nonDigit hmem g.unit.isDigit_letter, ht, List.append_assoc, scan_groups hfits,
      scan_group, addGroup?_of_overflows hover]
  | @missingUnit gs digits hfits hne hdigits hzero =>
    have hscan := parse_eq_scan (s := s) (by simp [ht, hne]) (by rwa [ht])
    have hall : scan s (secondsOf gs) none digits =
        scan s (secondsOf gs) (some (digitsValue digits)) [] := by
      simpa using scan_digits hne hdigits []
    rw [hscan, ht, scan_groups hfits, hall, scan]
  | @aboveMax gs hfits habove =>
    have hgs : gs ≠ [] := by
      rintro rfl
      exact absurd habove (by decide)
    rw [parse_textOf ht hgs hfits, scan, if_pos]
    exact habove

theorem denotes_of_parse {d : Delay} (h : parse s = .ok d) :
    Denotes (trimChars s.toList) d.seconds := by
  rcases denotes_or_rejected s (trimChars s.toList) with ⟨n, hn⟩ | ⟨e, he⟩
  · obtain rfl := Except.ok.inj (h.symm.trans (parse_of_denotes hn))
    exact hn
  · rw [parse_of_rejected he] at h
    cases h

theorem rejected_of_parse {e : DelayError} (h : parse s = .error e) :
    Rejected s (trimChars s.toList) e := by
  rcases denotes_or_rejected s (trimChars s.toList) with ⟨n, hn⟩ | ⟨e', he⟩
  · rw [parse_of_denotes hn] at h
    cases h
  · obtain rfl := Except.error.inj (h.symm.trans (parse_of_rejected he))
    exact he

/-- A text is read as a delay exactly if it stands for one, blanks around it aside, and otherwise
its first fault is reported. -/
theorem parse_reads (s : String) :
    (∀ d, parse s = .ok d ↔ Denotes (trimChars s.toList) d.seconds) ∧
      ∀ e, parse s = .error e ↔ Rejected s (trimChars s.toList) e :=
  ⟨fun _ => ⟨denotes_of_parse, parse_of_denotes⟩, fun _ => ⟨rejected_of_parse, parse_of_rejected⟩⟩

end Upkeep.Delay
