/-!
Blank characters and trimming.

A character is blank when Unicode gives it the property White_Space. `trim` drops blank
characters from both ends of a text and touches nothing else.
-/

namespace Upkeep

/-- The characters with the Unicode property White_Space: 25 code points. The zero-width space
U+200B and the byte order mark U+FEFF are not among them. -/
def isBlank (c : Char) : Bool :=
  let n := c.toNat
  (9 ≤ n && n ≤ 13) || n == 0x20 || n == 0x85 || n == 0xA0 || n == 0x1680 ||
    (0x2000 ≤ n && n ≤ 0x200A) || n == 0x2028 || n == 0x2029 || n == 0x202F || n == 0x205F ||
    n == 0x3000

/-- The text without its leading blanks. -/
def trimStart (cs : List Char) : List Char := cs.dropWhile isBlank

/-- The text without its trailing blanks. -/
def trimEnd (cs : List Char) : List Char := (cs.reverse.dropWhile isBlank).reverse

/-- The text without the blanks at either end. -/
def trimChars (cs : List Char) : List Char := trimEnd (trimStart cs)

/-- `trimChars` on strings. -/
def trim (s : String) : String := String.ofList (trimChars s.toList)

/-- A text of blank characters only; the empty text is one. -/
def isBlankText (s : String) : Bool := s.toList.all isBlank

theorem trimStart_eq_nil_iff {cs : List Char} : trimStart cs = [] ↔ cs.all isBlank = true := by
  induction cs with
  | nil => simp [trimStart]
  | cons c cs ih =>
    by_cases h : isBlank c = true
    · simp only [trimStart, List.dropWhile_cons_of_pos h, List.all_cons, h, Bool.true_and] at ih ⊢
      exact ih
    · simp [trimStart, h]

theorem trimChars_eq_nil_iff {cs : List Char} : trimChars cs = [] ↔ cs.all isBlank = true := by
  constructor
  · intro h
    by_cases hs : trimStart cs = []
    · exact trimStart_eq_nil_iff.1 hs
    · exfalso
      obtain ⟨c, r, hcr⟩ := List.exists_cons_of_ne_nil hs
      have hc : isBlank c = false := by
        have hm : (cs.dropWhile isBlank).head? = some c := by
          show (trimStart cs).head? = some c
          rw [hcr]; rfl
        simpa [hm] using List.head?_dropWhile_not isBlank cs
      have hall : (trimStart cs).reverse.all isBlank = true := by
        rw [trimChars, trimEnd, List.reverse_eq_nil_iff] at h
        exact trimStart_eq_nil_iff.1 h
      rw [hcr] at hall
      simp [hc] at hall
  · intro h
    simp [trimChars, trimStart_eq_nil_iff.2 h, trimEnd]

end Upkeep
