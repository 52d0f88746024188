import Upkeep.Http.Url
import Upkeep.Proofs.Text.Numeral
import Upkeep.Proofs.Text.Search
import Mathlib.Data.List.DropRight
import Mathlib.Data.List.Infix
/-!
# The front and the end of an address

Reading an address brings it into normal form and may put what is written into one part of it or
another. A plain last segment is still there, as it was written (`suffix_lastPart`), so addresses
that end with different numbers are different. Whether an address can be read at all is settled in
front of its path (`isSome_parse?_iff`).
-/

namespace Upkeep.Url

/-- A printable character without a meaning of its own, or the slash. -/
def isPlain (c : Char) : Bool :=
  0x20 < c.toNat && c.toNat ≤ 0x7E && !isPathSpecial c && !isQuerySpecial c &&
    !isFragmentSpecial c && c != ':' && c != '\x5c'

/-- The last part of an address that is there. -/
def lastPart (u : Url) : String := u.fragment.getD (u.query.getD u.path)

variable {c : Char} {t l : List Char}

theorem ne_of_isPlain {c' : Char} (h : isPlain c = true) (hc' : isPlain c' = false) : c ≠ c' := by
  rintro rfl
  rw [h] at hc'
  cases hc'

theorem notMem_of_isPlain (ht : ∀ c ∈ t, isPlain c = true) (hc : isPlain c = false) : c ∉ t :=
  fun hmem => ne_of_isPlain (ht c hmem) hc rfl

theorem lt_of_isPlain (h : isPlain c = true) : 0x20 < c.toNat ∧ c.toNat ≤ 0x7E := by
  simp only [isPlain, Bool.and_eq_true, decide_eq_true_eq] at h
  omega

theorem isPathSpecial_of_isPlain (h : isPlain c = true) : isPathSpecial c = false := by
  simp only [isPlain, Bool.and_eq_true, Bool.not_eq_true'] at h
  exact h.1.1.1.1.2

theorem isQuerySpecial_of_isPlain (h : isPlain c = true) : isQuerySpecial c = false := by
  simp only [isPlain, Bool.and_eq_true, Bool.not_eq_true'] at h
  exact h.1.1.1.2

theorem isFragmentSpecial_of_isPlain (h : isPlain c = true) : isFragmentSpecial c = false := by
  simp only [isPlain, Bool.and_eq_true, Bool.not_eq_true'] at h
  exact h.1.1.2

/-- Plain characters are not encoded. -/
theorem encode_of_isPlain {special : Char → Bool} (ht : ∀ c ∈ t, isPlain c = true)
    (hspecial : ∀ c, isPlain c = true → special c = false) : encode special t = t := by
  induction t with
  | nil => rfl
  | cons c t ih =>
    obtain ⟨hc, ht⟩ := List.forall_mem_cons.1 ht
    obtain ⟨hlow, hhigh⟩ := lt_of_isPlain hc
    rw [encode, List.flatMap_cons, if_neg, ← encode, ih ht, List.singleton_append]
    simp only [hspecial c hc, Bool.or_false, Bool.or_eq_true, decide_eq_true_eq]
    omega

theorem suffix_encode {special : Char → Bool} (h : t <:+ l) (ht : ∀ c ∈ t, isPlain c = true)
    (hspecial : ∀ c, isPlain c = true → special c = false) : t <:+ encode special l := by
  obtain ⟨front, rfl⟩ := h
  refine ⟨encode special front, ?_⟩
  rw [encode, encode, List.flatMap_append, ← encode, ← encode, encode_of_isPlain ht hspecial]

/-! ## From the text to the last part -/

/-- The character is cut off an address at its ends. -/
def isEdge (c : Char) : Bool := c.toNat ≤ 0x20

theorem isEdge_of_isPlain (h : isPlain c = true) : isEdge c = false :=
  decide_eq_false (Nat.not_le.2 (lt_of_isPlain h).1)

/-- Nothing is cut off behind a plain end. -/
theorem rdropWhile_isEdge (h : t <:+ l) (hne : t ≠ []) (ht : ∀ x ∈ t, isPlain x = true) :
    l.rdropWhile isEdge = l := by
  refine List.rdropWhile_eq_self_iff.2 fun _ => ?_
  rw [← h.getLast hne, isEdge_of_isPlain (ht _ (List.getLast_mem _))]
  exact Bool.false_ne_true

theorem filter_of_isPlain (ht : ∀ x ∈ t, isPlain x = true) :
    t.filter (fun c => c != '\t' && c != '\n' && c != '\r') = t := by
  refine List.filter_eq_self.2 fun x hx => ?_
  have hx := (lt_of_isPlain (ht x hx)).1
  simp only [Bool.and_eq_true, bne_iff_ne]
  refine ⟨⟨?_, ?_⟩, ?_⟩ <;> rintro rfl <;> revert hx <;> decide

/-- What is cut off an address before it is read leaves a plain end alone. -/
theorem suffix_cleaned {s : String} (h : c :: t <:+ s.toList)
    (ht : ∀ x ∈ c :: t, isPlain x = true) : c :: t <:+ cleaned s := by
  have hfront : c :: t <:+ s.toList.dropWhile isEdge :=
    suffix_dropWhile h (isEdge_of_isPlain (ht c List.mem_cons_self))
  rw [← rdropWhile_isEdge hfront (List.cons_ne_nil c t) ht] at hfront
  exact filter_of_isPlain ht ▸ hfront.filter _

theorem drop_takeWhile_length (p : Char → Bool) (l : List Char) :
    l.drop (l.takeWhile p).length = l.dropWhile p := by
  calc l.drop (l.takeWhile p).length
      = (l.takeWhile p ++ l.dropWhile p).drop (l.takeWhile p).length := by
        rw [List.takeWhile_append_dropWhile]
    _ = l.dropWhile p := List.drop_left

/-- What follows the authority is put into the path, the query or the fragment. -/
theorem lastPart_cases {s : String} {u : Url} (h : Url.parse? s = some u) :
    ∃ scheme rest after, scheme? (cleaned s) = some (scheme, rest) ∧
      after = (rest.dropWhile fun c => c == '/' || c == '\x5c').dropWhile
        (fun c => !(c == '/' || c == '\x5c' || c == '?' || c == '#')) ∧
      ((∃ a f, splitFirst? '#' after = some (a, f) ∧
          u.lastPart = String.ofList (encode isFragmentSpecial f)) ∨
        (∃ a q, splitFirst? '?' after = some (a, q) ∧
          u.lastPart = String.ofList (encode isQuerySpecial q)) ∨
        u.lastPart = String.ofList (normalPath after)) := by
  unfold Url.parse? at h
  obtain ⟨⟨scheme, rest⟩, hscheme, h⟩ := Option.bind_eq_some_iff.1 h
  refine ⟨scheme, rest, _, hscheme, rfl, ?_⟩
  dsimp only at h
  split at h
  · cases h
  obtain ⟨host, _, h⟩ := Option.bind_eq_some_iff.1 h
  obtain ⟨service?, _, h⟩ := Option.bind_eq_some_iff.1 h
  rw [drop_takeWhile_length] at h
  obtain rfl := Option.some.inj h
  generalize List.dropWhile _ (List.dropWhile _ rest) = after
  cases splitFirst? '#' after with
  | some cut => exact .inl ⟨cut.1, cut.2, rfl, rfl⟩
  | none =>
    cases hquery : splitFirst? '?' after with
    | some cut => exact .inr (.inl ⟨cut.1, cut.2, rfl, by simp [lastPart]⟩)
    | none => exact .inr (.inr (by simp [lastPart]))

/-! ## The last segment -/

theorem suffix_resolve (above : List (List Char)) {segments : List (List Char)}
    (h : [t] <:+ segments) (ht : ∀ c ∈ t, isPlain c = true) (hsingle : isSingleDot t = false)
    (hdouble : isDoubleDot t = false) : [t] <:+ resolve above segments := by
  induction segments generalizing above with
  | nil => cases List.suffix_nil.1 h
  | cons s rest ih =>
    rcases List.suffix_cons_iff.1 h with heq | hrest
    · obtain ⟨rfl, rfl⟩ := List.cons.inj heq
      rw [resolve, hdouble, hsingle, if_neg Bool.false_ne_true, if_neg Bool.false_ne_true,
        encode_of_isPlain ht fun _ => isPathSpecial_of_isPlain, List.reverse_cons]
      exact List.suffix_append _ _
    · cases rest with
      | nil => cases List.suffix_nil.1 hrest
      | cons next rest =>
        rw [resolve]
        · split
          · exact ih _ hrest
          split
          · exact ih _ hrest
          · exact ih _ hrest
        · nofun

/-- A plain last segment is still there in the normal form of a path. -/
theorem suffix_normalPath (h : '/' :: t <:+ l) (hslash : '/' ∉ t) (ht : ∀ c ∈ t, isPlain c = true)
    (hsingle : isSingleDot t = false) (hdouble : isDoubleDot t = false) :
    '/' :: t <:+ normalPath l := by
  have hnone (x : Char) (hx : x ∈ t) : (x == '/' || x == '\x5c') = false := by
    refine Bool.or_eq_false_iff.2 ⟨beq_false_of_ne ?_, beq_false_of_ne ?_⟩
    · exact fun heq => hslash (heq ▸ hx)
    · exact ne_of_isPlain (ht x hx) (by decide)
  have hsegments {relative : List Char} (h : relative = t ∨ '/' :: t <:+ relative) :
      [t] <:+ segments relative := by
    rcases h with rfl | h
    · have hone : segments relative = [relative] := splitWhere_of_forall hnone
      exact hone ▸ List.suffix_rfl
    · obtain ⟨before, hbefore⟩ := suffix_splitWhere h (by decide) hnone
      exact (List.suffix_cons _ _).trans hbefore
  have hresolved {relative : List Char} (h : relative = t ∨ '/' :: t <:+ relative) :
      '/' :: t <:+ (resolve [] (segments relative)).flatMap ('/' :: ·) := by
    have hlast := (suffix_resolve [] (hsegments h) ht hsingle hdouble).flatMap ('/' :: ·)
    rwa [List.flatMap_singleton] at hlast
  unfold normalPath
  split
  · next rest =>
    refine hresolved ?_
    rcases List.suffix_cons_iff.1 h with heq | h
    · exact .inl (List.cons.inj heq).2.symm
    · exact .inr h
  · next rest =>
    refine hresolved (.inr ?_)
    rcases List.suffix_cons_iff.1 h with heq | h
    · cases heq
    · exact h
  · exact hresolved (.inr h)

/-- A plain last segment, behind a plain segment that is not empty, is the end of the address that
is read. -/
theorem suffix_lastPart {s : String} {u : Url} (hu : Url.parse? s = some u) {word : List Char}
    (h : c :: word ++ '/' :: t <:+ s.toList) (hc : c ≠ '/')
    (hplain : ∀ x ∈ c :: word ++ '/' :: t, isPlain x = true) (hslash : '/' ∉ t)
    (hsingle : isSingleDot t = false) (hdouble : isDoubleDot t = false) :
    '/' :: t <:+ u.lastPart.toList := by
  obtain ⟨scheme, rest, after, hscheme, rfl, hlast⟩ := lastPart_cases hu
  obtain ⟨⟨name, rest'⟩, hcut, heq⟩ := Option.map_eq_some_iff.1 hscheme
  obtain ⟨rfl, rfl⟩ := Prod.mk.inj heq
  have hbackslash : c ≠ '\x5c' := ne_of_isPlain (hplain c List.mem_cons_self) (by decide)
  have hrest := suffix_splitFirst? hcut (suffix_cleaned h hplain)
    (notMem_of_isPlain hplain (by decide))
  have hauthority := suffix_dropWhile (p := fun c => c == '/' || c == '\x5c') hrest
    (by simp [hc, hbackslash])
  have hsegment := (List.suffix_append (c :: word) ('/' :: t)).trans hauthority
  have hafter := suffix_dropWhile
    (p := fun c => !(c == '/' || c == '\x5c' || c == '?' || c == '#')) hsegment (by decide)
  have hend : ∀ x ∈ '/' :: t, isPlain x = true :=
    fun x hx => hplain x (List.mem_append_right _ hx)
  rcases hlast with ⟨a, f, hcut, hlast⟩ | ⟨a, q, hcut, hlast⟩ | hlast
  · rw [hlast, String.toList_ofList]
    exact suffix_encode (suffix_splitFirst? hcut hafter (notMem_of_isPlain hend (by decide))) hend
      fun _ => isFragmentSpecial_of_isPlain
  · rw [hlast, String.toList_ofList]
    exact suffix_encode (suffix_splitFirst? hcut hafter (notMem_of_isPlain hend (by decide))) hend
      fun _ => isQuerySpecial_of_isPlain
  · rw [hlast, String.toList_ofList]
    exact suffix_normalPath hafter hslash (fun x hx => hend x (List.mem_cons_of_mem _ hx)) hsingle
      hdouble

/-! ## The front of an address -/

/-- A slash, or a backslash, which counts as one. -/
def isSlash (c : Char) : Bool := c == '/' || c == '\x5c'

/-- The character may stand in the authority of an address. -/
def inAuthority (c : Char) : Bool := !(c == '/' || c == '\x5c' || c == '?' || c == '#')

/-- The scheme of an address, and what stands between its slashes and the path. -/
def authority? (cs : List Char) : Option (String × List Char) :=
  (scheme? cs).map fun (scheme, rest) => (scheme, (rest.dropWhile isSlash).takeWhile inAuthority)

/-- A service can be asked under a scheme and an authority. -/
def IsServed (scheme : String) (authority : List Char) : Prop :=
  let (host, service) := splitService false ((splitLast? '@' authority).getD ([], authority)).2
  (scheme = "http" ∨ scheme = "https") ∧ (Host.parse? host).isSome ∧
    (serviceOf? scheme service).isSome

/-- Whether an address can be read is settled in front of its path. -/
theorem isSome_parse?_iff {s : String} : (Url.parse? s).isSome ↔
    ∃ scheme authority, authority? (cleaned s) = some (scheme, authority) ∧
      IsServed scheme authority := by
  unfold Url.parse? authority? isSlash inAuthority
  cases scheme? (cleaned s) with
  | none => simp
  | some cut =>
    obtain ⟨scheme, rest⟩ := cut
    by_cases hscheme : scheme = "http" ∨ scheme = "https"
    · have hserved : ¬(scheme ≠ "http" ∧ scheme ≠ "https") := by tauto
      simp [hserved, hscheme, IsServed, Option.isSome_bind, Option.any_eq_true,
        Option.isSome_iff_exists]
    · have hserved : scheme ≠ "http" ∧ scheme ≠ "https" := not_or.1 hscheme
      simp [hserved, IsServed]

/-- Behind the first slash of the path, nothing belongs to the authority. -/
theorem authority?_append {word : List Char} (h : c :: word ++ ['/'] <:+ l) (hc : c ≠ '/')
    (hword : ∀ x ∈ c :: word, isPlain x = true) (ht : ':' ∉ t) :
    authority? (l ++ t) = authority? l := by
  unfold authority? scheme?
  cases hcut : splitFirst? ':' l with
  | none =>
    have hnone := List.not_mem_append (splitFirst?_eq_none_iff.1 hcut) ht
    rw [splitFirst?_eq_none_iff.2 hnone]
  | some cut =>
    obtain ⟨scheme, rest⟩ := cut
    obtain ⟨hl, hscheme⟩ := splitFirst?_eq_some_iff.1 hcut
    have hlonger : splitFirst? ':' (l ++ t) = some (scheme, rest ++ t) := by
      rw [hl, List.append_assoc]
      exact splitFirst?_append hscheme (rest ++ t)
    have hrest : c :: word ++ ['/'] <:+ rest := by
      refine suffix_splitFirst? hcut h ?_
      simpa using notMem_of_isPlain hword (by decide)
    have hhead : isSlash c = false := by
      have hbackslash : c ≠ '\x5c' := ne_of_isPlain (hword c List.mem_cons_self) (by decide)
      simp [isSlash, hc, hbackslash]
    have hslash : '/' ∈ rest.dropWhile isSlash :=
      (suffix_dropWhile hrest hhead).subset (List.mem_append_right (c :: word) List.mem_cons_self)
    have hauthority : ((rest ++ t).dropWhile isSlash).takeWhile inAuthority =
        (rest.dropWhile isSlash).takeWhile inAuthority := by
      rw [dropWhile_append_of_mem (hrest.subset List.mem_cons_self) hhead,
        takeWhile_append_of_mem hslash (by decide)]
    rw [hlonger]
    exact congrArg (fun authority => some (_, authority)) hauthority

/-- The ends of an address are cut off each on its own. -/
theorem cleaned_append {s : String} (hs : s.toList = l ++ t) (hc : c ∈ l)
    (hplain : isPlain c = true) (ht : ∀ x ∈ t, isPlain x = true) (hne : t ≠ []) :
    cleaned s =
      (l.dropWhile isEdge).filter (fun c => c != '\t' && c != '\n' && c != '\r') ++ t := by
  have hfront : s.toList.dropWhile isEdge = l.dropWhile isEdge ++ t := by
    rw [hs]
    exact dropWhile_append_of_mem hc (isEdge_of_isPlain hplain) t
  have hinner : (l.dropWhile isEdge ++ t).rdropWhile isEdge = l.dropWhile isEdge ++ t :=
    rdropWhile_isEdge (List.suffix_append _ t) hne ht
  show ((s.toList.dropWhile isEdge).rdropWhile isEdge).filter _ = _
  rw [hfront, hinner, List.filter_append, filter_of_isPlain ht]

/-- Of addresses that agree up to a slash in their paths, all can be read or none. -/
theorem isSome_parse?_of_append {s s' : String} {word t' : List Char} (hs : s.toList = l ++ t)
    (hs' : s'.toList = l ++ t') (h : c :: word ++ ['/'] <:+ l) (hc : c ≠ '/')
    (hword : ∀ x ∈ c :: word, isPlain x = true) (ht : ∀ x ∈ t, isPlain x = true) (hne : t ≠ [])
    (ht' : ∀ x ∈ t', isPlain x = true) (hne' : t' ≠ []) (hread : (Url.parse? s).isSome) :
    (Url.parse? s').isSome := by
  have hhead : isPlain c = true := hword c List.mem_cons_self
  have hmem : c ∈ l := h.subset List.mem_cons_self
  have hplain : ∀ x ∈ c :: word ++ ['/'], isPlain x = true :=
    List.forall_mem_append.2 ⟨hword, List.forall_mem_singleton.2 (by decide)⟩
  have hkept : c :: word ++ ['/'] <:+
      (l.dropWhile isEdge).filter fun c => c != '\t' && c != '\n' && c != '\r' := by
    have hfront := suffix_dropWhile h (isEdge_of_isPlain hhead)
    exact filter_of_isPlain hplain ▸ hfront.filter _
  obtain ⟨scheme, authority, hauthority, hserved⟩ := isSome_parse?_iff.1 hread
  refine isSome_parse?_iff.2 ⟨scheme, authority, ?_, hserved⟩
  rw [cleaned_append hs hmem hhead ht hne,
    authority?_append hkept hc hword (notMem_of_isPlain ht (by decide))] at hauthority
  rw [cleaned_append hs' hmem hhead ht' hne',
    authority?_append hkept hc hword (notMem_of_isPlain ht' (by decide)), hauthority]

/-! ## Numbers -/

theorem isPlain_of_mem_decimal (n : Nat) : ∀ c ∈ decimal n, isPlain c = true :=
  forall_mem_decimal (by decide) n

theorem exists_head_decimal (n : Nat) :
    ∃ c t, decimal n = c :: t ∧ c.toLower ≠ '.' ∧ c.toLower ≠ '%' := by
  obtain ⟨c, t, hct⟩ := List.exists_cons_of_ne_nil (decimal_ne_nil n)
  refine ⟨c, t, hct, ?_⟩
  have hdigits := forall_mem_decimal (P := fun c => c.toLower ≠ '.' ∧ c.toLower ≠ '%') (by decide) n
  exact hdigits c (hct ▸ List.mem_cons_self)

theorem isSingleDot_decimal (n : Nat) : isSingleDot (decimal n) = false := by
  obtain ⟨c, t, hct, hc⟩ := exists_head_decimal n
  simp [hct, isSingleDot, ← String.toList_inj, hc]

theorem isDoubleDot_decimal (n : Nat) : isDoubleDot (decimal n) = false := by
  obtain ⟨c, t, hct, hc⟩ := exists_head_decimal n
  simp [hct, isDoubleDot, ← String.toList_inj, hc]

/-- Addresses that end with different numbers are different. -/
theorem eq_of_parse? {s s' : String} {u : Url} {word : List Char} {m n : Nat}
    (hu : Url.parse? s = some u) (hu' : Url.parse? s' = some u) (hc : c ≠ '/')
    (hword : ∀ x ∈ c :: word, isPlain x = true) (h : c :: word ++ '/' :: decimal m <:+ s.toList)
    (h' : c :: word ++ '/' :: decimal n <:+ s'.toList) : m = n := by
  have hplain (k : Nat) : ∀ x ∈ c :: word ++ '/' :: decimal k, isPlain x = true :=
    List.forall_mem_append.2
      ⟨hword, List.forall_mem_cons.2 ⟨by decide, isPlain_of_mem_decimal k⟩⟩
  have hslash (k : Nat) : '/' ∉ decimal k := fun hmem =>
    forall_mem_decimal (P := fun c => c ≠ '/') (by decide) k '/' hmem rfl
  have hm := suffix_lastPart hu h hc (hplain m) (hslash m) (isSingleDot_decimal m)
    (isDoubleDot_decimal m)
  have hn := suffix_lastPart hu' h' hc (hplain n) (hslash n) (isSingleDot_decimal n)
    (isDoubleDot_decimal n)
  exact decimal_injective (eq_of_suffix hm hn (hslash m) (hslash n))

/-! ## Queries -/

/-- What is added to a query can be read off it. -/
theorem added_of_addQuery {u : Url} {ps qs : List (String × String)}
    (h : u.addQuery ps = u.addQuery qs) :
    "&".intercalate (ps.map fun (k, v) => k ++ "=" ++ v) =
      "&".intercalate (qs.map fun (k, v) => k ++ "=" ++ v) := by
  have hquery := congrArg Url.query h
  unfold addQuery at hquery
  dsimp only at hquery
  split at hquery
  · exact Option.some.inj hquery
  · exact Option.some.inj hquery
  · exact (String.append_right_inj _).1 (Option.some.inj hquery)

/-- Different pages are different queries. -/
theorem addQuery_page {u : Url} {size size' page page' : Nat}
    (h : u.addQuery [("per_page", decimalText size), ("page", decimalText page)] =
      u.addQuery [("per_page", decimalText size'), ("page", decimalText page')]) :
    size = size' ∧ page = page' := by
  have hadded (m n : Nat) : ("&".intercalate ([("per_page", decimalText m),
      ("page", decimalText n)].map fun (k, v) => k ++ "=" ++ v)).toList =
        ("per_page=".toList ++ decimal m) ++ '&' :: ("page=".toList ++ decimal n) := by
    show ("per_page=" ++ decimalText m ++ "&" ++ ("page=" ++ decimalText n)).toList = _
    simp [decimalText]
  have hdigits (n : Nat) : '&' ∉ decimal n := fun hmem =>
    forall_mem_decimal (P := fun c => c ≠ '&') (by decide) n '&' hmem rfl
  have heq := congrArg String.toList (added_of_addQuery h)
  rw [hadded, hadded] at heq
  obtain ⟨hsize, -, hpage⟩ := (List.append_cons_inj_of_notMem
    (by simp [hdigits]) (by simp [hdigits])).1 heq
  exact ⟨decimal_injective (List.append_cancel_left hsize),
    decimal_injective (List.append_cancel_left hpage)⟩

end Upkeep.Url
