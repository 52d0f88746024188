import Upkeep.Json.Parser
import Upkeep.Json.Printer
import Upkeep.Proofs.Text.Numeral
/-!
# Reading back printed JSON

The printer and the reader are written apart. A value that its text tells in full (`Json.Fits`) is
read back from it (`Json.parse?_print`), so that different values have different texts
(`Json.print_injective`). Whatever stands behind the text of a value inside a greater text is left
for the reading to go on with (`Json.Reads`).
-/

namespace Upkeep.Json

/-! ## Strings -/

theorem hexValue?_hexDigitLower {d : Nat} (h : d < 16) : hexValue? (hexDigitLower d) = some d := by
  revert d
  decide

/-- A control character is read back from its code. -/
theorem escape?_control {n : Nat} (h : n < 0x20) (rest : List Char) :
    escape? ('u' :: '0' :: '0' :: hexDigitLower (n / 16) :: hexDigitLower (n % 16) :: rest) =
      some (some (Char.ofNat n), rest) := by
  have hzero : hexValue? '0' = some 0 := rfl
  have hunit : codeUnit? ('0' :: '0' :: hexDigitLower (n / 16) :: hexDigitLower (n % 16) :: rest) =
      some (n, rest) := by
    have hhigh := hexValue?_hexDigitLower (d := n / 16) (by omega)
    have hlow := hexValue?_hexDigitLower (d := n % 16) (by omega)
    have hn : (0 * 16 + 0) * 16 + n / 16 = n / 16 := by omega
    simp only [codeUnit?, hzero, hhigh, hlow, Option.bind_eq_bind, Option.bind_some, hn]
    rw [Nat.div_add_mod' n 16]
  show unicodeEscape? _ = _
  unfold unicodeEscape?
  rw [hunit]
  simp only [Option.bind_eq_bind, Option.bind_some]
  rw [if_neg (by omega), if_neg (by omega)]

/-- A character of a string is read in one step, however it is written. -/
theorem stringBody_escapeChar {fuel : Nat} {acc rest : List Char} (c : Char) :
    stringBody (fuel + 1) (some acc) (escapeChar c ++ rest) =
      stringBody fuel (some (c :: acc)) rest := by
  unfold escapeChar
  -- The seven characters whose escape sequence is a single letter.
  iterate 7
    split
    · subst_vars
      rfl
  split
  · next hcontrol =>
    have hescape : escape? (['u', '0', '0', hexDigitLower (c.toNat / 16),
        hexDigitLower (c.toNat % 16)] ++ rest) = some (some (Char.ofNat c.toNat), rest) :=
      escape?_control hcontrol rest
    rw [List.cons_append, stringBody, if_neg (by decide), if_pos rfl, hescape]
    simp [Char.ofNat_toNat]
  · next hquote hslash _ _ _ _ _ hcontrol =>
    rw [List.singleton_append, stringBody, if_neg hquote, if_neg hslash, if_neg hcontrol,
      Option.map_some]

/-- A string is read up to its closing quotation mark. -/
theorem stringBody_flatMap {fuel : Nat} {acc rest cs : List Char} (h : cs.length < fuel) :
    stringBody fuel (some acc) (cs.flatMap escapeChar ++ '\x22' :: rest) =
      some (some (String.ofList (acc.reverse ++ cs)), rest) := by
  induction cs generalizing fuel acc with
  | nil =>
    obtain ⟨fuel, rfl⟩ := Nat.exists_eq_succ_of_ne_zero (Nat.ne_of_gt h)
    simp [stringBody]
  | cons c cs ih =>
    obtain ⟨fuel, rfl⟩ := Nat.exists_eq_succ_of_ne_zero (Nat.ne_of_gt (Nat.zero_lt_of_lt h))
    rw [List.flatMap_cons, List.append_assoc, Nat.succ_eq_add_one, stringBody_escapeChar,
      ih (Nat.lt_of_succ_lt_succ h)]
    simp

/-! ## Numbers -/

/-- What may stand behind a value inside a text: nothing, or what goes on with a list or table or
ends it. -/
def Behind (rest : List Char) : Prop := ∀ c ∈ rest.head?, c = ',' ∨ c = ']' ∨ c = '\x7d'

theorem behind_cons {c : Char} (h : c = ',' ∨ c = ']' ∨ c = '\x7d') (cs : List Char) :
    Behind (c :: cs) := by
  intro d hd
  rwa [← Option.some.inj (Option.mem_def.1 hd)]

variable {rest : List Char}

theorem Behind.takeWhile_decimal (h : Behind rest) (n : Nat) :
    (decimal n ++ rest).takeWhile Char.isDigit = decimal n := by
  have hdigits : ∀ c ∈ decimal n, c.isDigit = true := forall_mem_decimal (by decide) n
  rw [List.takeWhile_append_of_pos hdigits]
  cases rest with
  | nil => simp
  | cons c rest =>
    have hc : c.isDigit = false := by
      rcases h c rfl with rfl | rfl | rfl <;> decide
    rw [List.takeWhile_cons_of_neg (Bool.eq_false_iff.1 hc), List.append_nil]

theorem Behind.integerPart? (h : Behind rest) (n : Nat) :
    integerPart? (decimal n ++ rest) = some (decimal n, rest) := by
  have hdrop : (decimal n ++ rest).drop (decimal n).length = rest := List.drop_left
  unfold Json.integerPart?
  rw [h.takeWhile_decimal]
  split
  · next hnil => exact absurd hnil (decimal_ne_nil n)
  · next hzero =>
    rw [hzero]
    rfl
  · next ds hne hzero =>
    have hn : n = 0 := eq_zero_of_head?_decimal (by rw [hzero]; rfl)
    rw [hn, decimal, if_pos (by decide)] at hzero
    exact absurd (List.cons.inj hzero).2.symm hne
  · next ds _ _ _ =>
    rw [hdrop]

theorem Behind.fractionPart? (h : Behind rest) : fractionPart? rest = some ([], rest) := by
  unfold Json.fractionPart?
  split
  · next cs => rcases h '.' rfl with h | h | h <;> cases h
  · rfl

theorem Behind.exponentPart? (h : Behind rest) :
    exponentPart? rest = some (([], [], []), rest) := by
  unfold Json.exponentPart?
  split
  · next c cs =>
    rw [if_neg]
    rcases h c rfl with rfl | rfl | rfl <;> decide
  · rfl

theorem Behind.unsignedNumber? (h : Behind rest) (negative : Bool) (n : Nat) :
    unsignedNumber? negative (decimal n ++ rest) =
      some (Number.toValue ⟨negative, decimal n, [], [], [], []⟩, rest) := by
  unfold Json.unsignedNumber?
  rw [h.integerPart?]
  simp only [Option.bind_eq_bind, Option.bind_some, h.fractionPart?, h.exponentPart?]

/-- A word that is written without a point and an exponent is an integer. -/
theorem toValue_decimal {n : Int} (h : Value.isWordInt n = true) :
    Number.toValue ⟨decide (n < 0), decimal n.natAbs, [], [], [], []⟩ = .int n := by
  unfold Number.toValue
  have hvalue : (if n < 0 then -((digitsValue (decimal n.natAbs) : Nat) : Int)
      else (digitsValue (decimal n.natAbs) : Nat)) = n := by
    rw [digitsValue_decimal]
    split <;> omega
  have hzero : (decide (n < 0) && n == 0) = false := by
    by_cases hneg : n < 0
    · simp [hneg]; omega
    · simp [hneg]
  simp only [decide_eq_true_eq, hvalue, List.isEmpty_nil, Bool.and_true, h, hzero, Bool.not_false,
    if_true]

/-! ## Values -/

/-- A value that its JSON text tells in full: all of it can be read, its numbers are words, and at
most `n` lists and tables stand around each other. -/
inductive Fits : Nat → Value → Prop
  | null {n} : Fits n .null
  | bool {n} (b : Bool) : Fits n (.bool b)
  | int {n} (i : Int) (h : Value.isWordInt i = true) : Fits n (.int i)
  | text {n} (s : String) : Fits n (.text s)
  | list {n} (vs : List Value) (h : ∀ v ∈ vs, Fits n v) : Fits (n + 1) (.list vs)
  | table {n} (es : List (String × Value)) (h : ∀ e ∈ es, Fits n e.2) : Fits (n + 1) (.table es)

/-- The characters of a value's text. -/
def chars (v : Value) : List Char := (print v).toList

/-- A text between quotation marks. -/
def quoted (s : String) : List Char := '\x22' :: (s.toList.flatMap escapeChar ++ ['\x22'])

/-- The characters of an entry of a table. -/
def entryChars (e : String × Value) : List Char := quoted e.1 ++ ':' :: chars e.2

theorem chars_int (i : Int) : chars (.int i) =
    if i < 0 then '-' :: decimal i.natAbs else decimal i.natAbs := by
  rw [chars, print, integerText]
  split <;> simp [decimalText]

theorem chars_text (s : String) : chars (.text s) = quoted s := by
  rw [chars, print, quote, String.toList_ofList, quoted]

theorem printItems_eq_map (vs : List Value) : printItems vs = vs.map print := by
  induction vs with
  | nil => rfl
  | cons v vs ih => rw [printItems, ih, List.map_cons]

theorem chars_list (vs : List Value) :
    chars (.list vs) = '[' :: ([','].intercalate (vs.map chars) ++ [']']) := by
  rw [chars, print, printItems_eq_map, String.toList_append, String.toList_append,
    String.toList_intercalate, List.map_map]
  rfl

theorem printEntries_eq_map (es : List (String × Value)) :
    printEntries es = es.map fun e => quote e.1 ++ ":" ++ print e.2 := by
  induction es with
  | nil => rfl
  | cons e es ih => rw [printEntries, ih, List.map_cons]

theorem chars_table (es : List (String × Value)) :
    chars (.table es) = '\x7b' :: ([','].intercalate (es.map entryChars) ++ ['\x7d']) := by
  have hentry : (fun e => (quote e.1 ++ ":" ++ print e.2).toList) = entryChars := by
    funext e
    simp [quote, entryChars, quoted, chars]
  rw [chars, print, printEntries_eq_map, String.toList_append, String.toList_append,
    String.toList_intercalate, List.map_map, ← hentry]
  rfl

/-- The first character of a value is no blank, and ends no list. -/
theorem exists_head_chars {n : Nat} {v : Value} (h : Fits n v) :
    ∃ c cs, chars v = c :: cs ∧ isSpace c = false ∧ c ≠ ']' := by
  cases h with
  | null => exact ⟨'n', _, rfl, by decide⟩
  | bool b => cases b <;> exact ⟨_, _, rfl, by decide⟩
  | int i _ =>
    rw [chars_int]
    split
    · exact ⟨'-', _, rfl, by decide⟩
    · obtain ⟨c, cs, hcs⟩ := List.exists_cons_of_ne_nil (decimal_ne_nil i.natAbs)
      have hdigits := forall_mem_decimal (P := fun c => isSpace c = false ∧ c ≠ ']') (by decide)
        i.natAbs
      exact ⟨c, cs, hcs, hdigits c (hcs ▸ List.mem_cons_self)⟩
  | text s => exact ⟨_, _, chars_text s, by decide⟩
  | list vs _ => exact ⟨_, _, chars_list vs, by decide⟩
  | table es _ => exact ⟨_, _, chars_table es, by decide⟩

/-- A value is read from its text, and what stands behind it is left. -/
def Reads (v : Value) : Prop := ∀ fuel rest, (chars v).length < fuel → Behind rest →
  value? fuel (chars v ++ rest) = some (v, rest)

/-- Reading a value takes a step at least. -/
theorem reads_of_succ {v : Value} (h : ∀ fuel rest, (chars v).length ≤ fuel → Behind rest →
    value? (fuel + 1) (chars v ++ rest) = some (v, rest)) : Reads v := by
  intro fuel rest hfuel hrest
  obtain ⟨fuel, rfl⟩ := Nat.exists_eq_add_one_of_ne_zero (Nat.ne_zero_of_lt hfuel)
  exact h fuel rest (Nat.le_of_lt_succ hfuel) hrest

theorem skipSpaces_cons {c : Char} (h : isSpace c = false) (cs : List Char) :
    skipSpaces (c :: cs) = c :: cs :=
  List.dropWhile_cons_of_neg (Bool.eq_false_iff.1 h)

theorem value?_number {c : Char} (hc : isSpace c = false) (hquote : c ≠ '\x22') (hlist : c ≠ '[')
    (htable : c ≠ '\x7b') (hminus : c ≠ '-') (hdigit : c.isDigit = true) (fuel : Nat)
    (cs : List Char) : value? (fuel + 1) (c :: cs) = unsignedNumber? false (c :: cs) := by
  rw [value?, skipSpaces_cons hc]
  dsimp only
  rw [if_neg hquote, if_neg hlist, if_neg htable, if_neg hminus, if_pos hdigit]

theorem reads_null : Reads .null := reads_of_succ fun _ _ _ _ => rfl

theorem reads_bool (b : Bool) : Reads (.bool b) := by
  cases b <;> exact reads_of_succ fun _ _ _ _ => rfl

theorem reads_int {i : Int} (h : Value.isWordInt i = true) : Reads (.int i) := by
  refine reads_of_succ fun fuel rest _ hrest => ?_
  have hvalue := toValue_decimal h
  rw [chars_int]
  by_cases hneg : i < 0
  · rw [if_pos hneg]
    show unsignedNumber? true (decimal i.natAbs ++ rest) = _
    rw [hrest.unsignedNumber?, ← hvalue, decide_eq_true hneg]
  · rw [if_neg hneg]
    obtain ⟨c, cs, hcs⟩ := List.exists_cons_of_ne_nil (decimal_ne_nil i.natAbs)
    have hdigits := forall_mem_decimal (P := fun c => isSpace c = false ∧ c ≠ '\x22' ∧ c ≠ '[' ∧
      c ≠ '\x7b' ∧ c ≠ '-' ∧ c.isDigit = true) (by decide) i.natAbs
    obtain ⟨hspace, hquote, hlist, htable, hminus, hdigit⟩ := hdigits c (hcs ▸ List.mem_cons_self)
    rw [hcs, List.cons_append, value?_number hspace hquote hlist htable hminus hdigit,
      ← List.cons_append, ← hcs, hrest.unsignedNumber?, ← hvalue, decide_eq_false hneg]

theorem stringBody_quoted {fuel : Nat} {s : String} (h : s.toList.length < fuel)
    (rest : List Char) : stringBody fuel (some []) (s.toList.flatMap escapeChar ++ '\x22' :: rest) =
      some (some s, rest) := by
  rw [stringBody_flatMap h, List.reverse_nil, List.nil_append, String.ofList_toList]

/-- Escaping makes no text shorter. -/
theorem length_le_flatMap (cs : List Char) : cs.length ≤ (cs.flatMap escapeChar).length := by
  induction cs with
  | nil => exact Nat.le_refl 0
  | cons c cs ih =>
    have hone : 1 ≤ (escapeChar c).length := by
      unfold escapeChar
      repeat' split
      all_goals simp
    rw [List.flatMap_cons, List.length_append, List.length_cons]
    omega

theorem length_lt_quoted (s : String) : s.toList.length + 1 < (quoted s).length := by
  have h := length_le_flatMap s.toList
  simp only [quoted, List.length_cons, List.length_append, List.length_nil]
  omega

theorem reads_text (s : String) : Reads (.text s) := by
  refine reads_of_succ fun fuel rest hfuel _ => ?_
  have hlength := length_lt_quoted s
  rw [chars_text] at hfuel ⊢
  have hshort : s.toList.length < fuel := by omega
  have hsplit : quoted s ++ rest =
      '\x22' :: (s.toList.flatMap escapeChar ++ '\x22' :: rest) := by
    simp [quoted]
  rw [hsplit, value?, skipSpaces_cons (by decide)]
  dsimp only
  rw [if_pos rfl, stringBody_quoted hshort]
  rfl

/-! ## Lists -/

/-- The items of a list are read one after the other. -/
theorem items?_chars {vs : List Value} (hne : vs ≠ []) (hreads : ∀ v ∈ vs, Reads v)
    {fuel : Nat} (hfuel : ([','].intercalate (vs.map chars)).length + 1 < fuel) (acc : List Value)
    (rest : List Char) :
    items? fuel acc ([','].intercalate (vs.map chars) ++ ']' :: rest) =
      some (acc.reverse ++ vs, rest) := by
  induction vs generalizing fuel acc with
  | nil => exact absurd rfl hne
  | cons v vs ih =>
    obtain ⟨fuel, rfl⟩ := Nat.exists_eq_add_one_of_ne_zero (Nat.ne_zero_of_lt hfuel)
    obtain ⟨hv, hvs⟩ := List.forall_mem_cons.1 hreads
    cases vs with
    | nil =>
      rw [List.map_singleton, List.intercalate_singleton] at hfuel ⊢
      rw [items?, hv fuel _ (by omega) (behind_cons (by decide) rest)]
      simp [skipSpaces_cons (c := ']') (by decide)]
    | cons w vs =>
      rw [List.map_cons, List.map_cons, List.intercalate_cons_cons] at hfuel ⊢
      simp only [List.length_append, List.length_singleton] at hfuel
      have hsplit : chars v ++ [','] ++ [','].intercalate (chars w :: vs.map chars) ++ ']' :: rest =
          chars v ++ ',' :: ([','].intercalate (chars w :: vs.map chars) ++ ']' :: rest) := by
        simp
      rw [hsplit, items?, hv fuel _ (by omega) (behind_cons (by decide) _)]
      dsimp only
      rw [skipSpaces_cons (by decide)]
      show items? fuel (v :: acc) _ = _
      rw [← List.map_cons, ih (List.cons_ne_nil w vs) hvs]
      · simp
      · rw [List.map_cons]
        omega

theorem exists_intercalate (sep l : List Char) (ls : List (List Char)) :
    ∃ tail, sep.intercalate (l :: ls) = l ++ tail := by
  cases ls with
  | nil => exact ⟨[], by rw [List.intercalate_singleton, List.append_nil]⟩
  | cons l' ls => exact ⟨_, by rw [List.intercalate_cons_cons, List.append_assoc]⟩

theorem reads_list {n : Nat} {vs : List Value} (hfits : ∀ v ∈ vs, Fits n v)
    (hreads : ∀ v ∈ vs, Reads v) : Reads (.list vs) := by
  refine reads_of_succ fun fuel rest hfuel _ => ?_
  rw [chars_list] at hfuel ⊢
  have hsplit : '[' :: ([','].intercalate (vs.map chars) ++ [']']) ++ rest =
      '[' :: ([','].intercalate (vs.map chars) ++ ']' :: rest) := by
    simp
  rw [hsplit, value?, skipSpaces_cons (by decide)]
  dsimp only
  rw [if_neg (by decide), if_pos rfl]
  cases vs with
  | nil => rfl
  | cons v vs =>
    simp only [List.length_cons, List.length_append, List.length_nil] at hfuel
    have hshort : ([','].intercalate ((v :: vs).map chars)).length + 1 < fuel := by omega
    have hitems := items?_chars (List.cons_ne_nil v vs) hreads hshort [] rest
    obtain ⟨c, cs, hcs, hc, hend⟩ := exists_head_chars (hfits v List.mem_cons_self)
    obtain ⟨tail, htail⟩ := exists_intercalate [','] (chars v) (vs.map chars)
    rw [List.map_cons, htail, hcs, List.cons_append, List.cons_append] at hitems ⊢
    rw [skipSpaces_cons hc]
    split
    -- What ends a list is no beginning of its first item.
    · next heq => exact absurd (List.cons.inj heq).1 hend
    · rw [hitems]
      rfl

/-! ## Tables -/

/-- An entry is read, and the mark behind it decides whether another one follows. -/
theorem entries?_entry {e : String × Value} (hv : Reads e.2) {fuel : Nat}
    (hfuel : (entryChars e).length < fuel) (acc : List (String × Value)) (cs : List Char) :
    entries? (fuel + 1) (some acc) (entryChars e ++ ',' :: cs) =
        entries? fuel (some (e :: acc)) cs ∧
      entries? (fuel + 1) (some acc) (entryChars e ++ '\x7d' :: cs) =
        some (some (e :: acc).reverse, cs) := by
  obtain ⟨k, v⟩ := e
  have hlength := length_lt_quoted k
  simp only [entryChars, List.length_append, List.length_cons] at hfuel
  have hsplit (c : Char) : entryChars (k, v) ++ c :: cs =
      '\x22' :: (k.toList.flatMap escapeChar ++ '\x22' :: ':' :: (chars v ++ c :: cs)) := by
    simp [entryChars, quoted]
  have hkey : k.toList.length < fuel := by omega
  have hbody (c : Char) := stringBody_quoted hkey (':' :: (chars v ++ c :: cs))
  have hshort : (chars v).length < fuel := by omega
  have hvalue {c : Char} (hc : c = ',' ∨ c = ']' ∨ c = '\x7d') :
      value? fuel (chars v ++ c :: cs) = some (v, c :: cs) :=
    hv fuel (c :: cs) hshort (behind_cons hc cs)
  constructor
  · simp only [hsplit, entries?, skipSpaces_cons (c := '\x22') (by decide), hbody,
      skipSpaces_cons (c := ':') (by decide), hvalue (.inl rfl),
      skipSpaces_cons (c := ',') (by decide), Option.bind_some, Option.map_some]
  · simp only [hsplit, entries?, skipSpaces_cons (c := '\x22') (by decide), hbody,
      skipSpaces_cons (c := ':') (by decide), hvalue (.inr (.inr rfl)),
      skipSpaces_cons (c := '\x7d') (by decide), Option.bind_some, Option.map_some]

/-- The entries of a table are read one after the other. -/
theorem entries?_chars {es : List (String × Value)} (hne : es ≠ []) (hreads : ∀ e ∈ es, Reads e.2)
    {fuel : Nat} (hfuel : ([','].intercalate (es.map entryChars)).length + 1 < fuel)
    (acc : List (String × Value)) (rest : List Char) :
    entries? fuel (some acc) ([','].intercalate (es.map entryChars) ++ '\x7d' :: rest) =
      some (some (acc.reverse ++ es), rest) := by
  induction es generalizing fuel acc with
  | nil => exact absurd rfl hne
  | cons e es ih =>
    obtain ⟨fuel, rfl⟩ := Nat.exists_eq_add_one_of_ne_zero (Nat.ne_zero_of_lt hfuel)
    obtain ⟨he, hes⟩ := List.forall_mem_cons.1 hreads
    cases es with
    | nil =>
      rw [List.map_singleton, List.intercalate_singleton] at hfuel ⊢
      rw [(entries?_entry he (by omega) acc rest).2]
      simp
    | cons e' es =>
      rw [List.map_cons, List.map_cons, List.intercalate_cons_cons] at hfuel ⊢
      simp only [List.length_append, List.length_singleton] at hfuel
      have hsplit : entryChars e ++ [','] ++
          [','].intercalate (entryChars e' :: es.map entryChars) ++ '\x7d' :: rest =
            entryChars e ++ ',' ::
              ([','].intercalate (entryChars e' :: es.map entryChars) ++ '\x7d' :: rest) := by
        simp
      rw [hsplit, (entries?_entry he (by omega) acc _).1, ← List.map_cons,
        ih (List.cons_ne_nil e' es) hes]
      · simp
      · rw [List.map_cons]
        omega

theorem reads_table {es : List (String × Value)} (hreads : ∀ e ∈ es, Reads e.2) :
    Reads (.table es) := by
  refine reads_of_succ fun fuel rest hfuel _ => ?_
  rw [chars_table] at hfuel ⊢
  have hsplit : '\x7b' :: ([','].intercalate (es.map entryChars) ++ ['\x7d']) ++ rest =
      '\x7b' :: ([','].intercalate (es.map entryChars) ++ '\x7d' :: rest) := by
    simp
  rw [hsplit, value?, skipSpaces_cons (by decide)]
  dsimp only
  rw [if_neg (by decide), if_neg (by decide), if_pos rfl]
  cases es with
  | nil => rfl
  | cons e es =>
    simp only [List.length_cons, List.length_append, List.length_nil] at hfuel
    have hshort : ([','].intercalate ((e :: es).map entryChars)).length + 1 < fuel := by omega
    have hentries := entries?_chars (List.cons_ne_nil e es) hreads hshort [] rest
    obtain ⟨tail, htail⟩ := exists_intercalate [','] (entryChars e) (es.map entryChars)
    have hquote : entryChars e = '\x22' :: (entryChars e).tail := rfl
    rw [List.map_cons, htail, hquote, List.cons_append, List.cons_append] at hentries ⊢
    rw [skipSpaces_cons (by decide)]
    split
    · next heq => exact absurd (List.cons.inj heq).1 (by decide)
    · rw [hentries]
      rfl

/-! ## Whole texts -/

theorem reads_of_fits {n : Nat} {v : Value} (h : Fits n v) : Reads v := by
  induction h with
  | null => exact reads_null
  | bool b => exact reads_bool b
  | int i h => exact reads_int h
  | text s => exact reads_text s
  | list vs h ih => exact reads_list h ih
  | table es h ih => exact reads_table ih

theorem limitDepth_of_fits {n : Nat} {v : Value} (h : Fits n v) : v.limitDepth n = v := by
  induction h with
  | @null n | @bool n _ | @int n _ _ | @text n _ => cases n <;> rfl
  | @list n vs h ih =>
    have hitems : Value.limitItems n vs = vs := by
      clear h
      induction vs with
      | nil => rfl
      | cons v vs hvs =>
        obtain ⟨hv, hrest⟩ := List.forall_mem_cons.1 ih
        rw [Value.limitItems, hv, hvs hrest]
    rw [Value.limitDepth, hitems]
  | @table n es h ih =>
    have hentries : Value.limitEntries n es = es := by
      clear h
      induction es with
      | nil => rfl
      | cons e es hes =>
        obtain ⟨he, hrest⟩ := List.forall_mem_cons.1 ih
        rw [Value.limitEntries, he, hes hrest]
    rw [Value.limitDepth, hentries]

theorem isReadable_of_fits {n : Nat} {v : Value} (h : Fits n v) : v.isReadable = true := by
  induction h with
  | null | bool | int | text => rfl
  | @list n vs h ih =>
    clear h
    rw [Value.isReadable]
    induction vs with
    | nil => rfl
    | cons v vs hvs =>
      obtain ⟨hv, hrest⟩ := List.forall_mem_cons.1 ih
      rw [Value.areReadable, hv, hvs hrest, Bool.and_true]
  | @table n es h ih =>
    clear h
    rw [Value.isReadable]
    induction es with
    | nil => rfl
    | cons e es hes =>
      obtain ⟨he, hrest⟩ := List.forall_mem_cons.1 ih
      rw [Value.areEntriesReadable, he, hes hrest, Bool.and_true]

theorem read?_print {v : Value} (h : Fits nestingLimit v) : read? (print v) = some v := by
  have hread := reads_of_fits h (2 * (print v).toList.length + 2) [] (by rw [chars]; omega) nofun
  rw [List.append_nil, chars] at hread
  simp [read?, hread, skipSpaces, limitDepth_of_fits h]

/-- A value is read back from its JSON text. -/
theorem parse?_print {v : Value} (h : Fits nestingLimit v) : parse? (print v) = some v := by
  rw [parse?, read?_print h, Option.filter_some, if_pos (isReadable_of_fits h)]

/-- Different values have different texts. -/
theorem print_injective {v w : Value} (hv : Fits nestingLimit v) (hw : Fits nestingLimit w)
    (h : print v = print w) : v = w := by
  have hread := parse?_print hv
  rw [h, parse?_print hw] at hread
  exact (Option.some.inj hread).symm

end Upkeep.Json
