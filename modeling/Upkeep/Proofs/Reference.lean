import Upkeep.Proofs.Text.Blank
import Upkeep.Proofs.Text.Numeral
import Upkeep.Proofs.Text.Search
import Upkeep.Reference
/-!
# The texts of references

A repository is referred to by two names with one slash between them (`RepositoryId.Denotes`), and
an item by its repository and a number behind the last `#` (`IssueRef.Denotes`). The readers accept
just these texts and say which part of another is wrong. A reference that was read is written so
that it reads the same, whatever its names hold besides the slash (`references_read_back`).
-/

namespace Upkeep

theorem properName?_eq_some_iff {s t : String} : properName? s = some t ↔ t = s ∧ t ≠ "" := by
  unfold properName?
  split
  · next h =>
    rw [String.isEmpty_iff] at h
    exact ⟨nofun, fun ht => absurd (ht.1.trans h) ht.2⟩
  · next h =>
    rw [String.isEmpty_iff] at h
    rw [Option.some.injEq]
    exact ⟨fun hs => ⟨hs.symm, hs ▸ h⟩, fun ht => ht.1.symm⟩

/-! ## Repositories -/

namespace RepositoryId

variable {s : String} {cs : List Char} {r : RepositoryId}

/-- A text refers to a repository: it has one slash, and the names on either side of it, which are
not empty, may stand between blanks. -/
def Denotes (cs : List Char) (r : RepositoryId) : Prop :=
  ∃ org name, cs = org ++ '/' :: name ∧ '/' ∉ org ∧ '/' ∉ name ∧
    Trims org r.org.toList ∧ Trims name r.name.toList ∧ r.org ≠ "" ∧ r.name ≠ ""

theorem parse_of_denotes (h : Denotes s.toList r) : parse s = .ok r := by
  obtain ⟨org, name, hs, horg, hname, htrim, htrim', hne, hne'⟩ := h
  have hproper : properName? r.org = some r.org := properName?_eq_some_iff.2 ⟨rfl, hne⟩
  have hproper' : properName? r.name = some r.name := properName?_eq_some_iff.2 ⟨rfl, hne'⟩
  unfold parse
  rw [splitFirst?_eq_some_iff.2 ⟨hs, horg⟩]
  dsimp only
  rw [if_neg hname, htrim.trimChars_eq, htrim'.trimChars_eq, String.ofList_toList,
    String.ofList_toList, hproper, hproper']

/-- The reader either takes the text for a repository or reports it as none. -/
theorem denotes_or_parse_eq_error (s : String) :
    (∃ r, Denotes s.toList r) ∨ parse s = .error (.repository s) := by
  unfold parse
  split
  · exact .inr rfl
  · next org name hcut =>
    obtain ⟨hs, horg⟩ := splitFirst?_eq_some_iff.1 hcut
    split
    · exact .inr rfl
    · next hname =>
      split
      · next t t' ht ht' =>
        obtain ⟨rfl, hne⟩ := properName?_eq_some_iff.1 ht
        obtain ⟨rfl, hne'⟩ := properName?_eq_some_iff.1 ht'
        have htrim (cs : List Char) : Trims cs (String.ofList (trimChars cs)).toList := by
          rw [String.toList_ofList]
          exact trims_trimChars cs
        exact .inl ⟨⟨_, _⟩, org, name, hs, horg, hname, htrim org, htrim name, hne, hne'⟩
      · exact .inr rfl

theorem parse_eq_ok_iff : parse s = .ok r ↔ Denotes s.toList r := by
  refine ⟨fun h => ?_, parse_of_denotes⟩
  rcases denotes_or_parse_eq_error s with ⟨r', hr'⟩ | herror
  · obtain rfl := Except.ok.inj (h.symm.trans (parse_of_denotes hr'))
    exact hr'
  · rw [herror] at h
    cases h

theorem parse_eq_error_iff {e : ReferenceError} :
    parse s = .error e ↔ (∀ r, ¬ Denotes s.toList r) ∧ e = .repository s := by
  constructor
  · intro h
    have hnone (r : RepositoryId) : ¬ Denotes s.toList r := fun hr => by
      rw [parse_of_denotes hr] at h
      cases h
    rcases denotes_or_parse_eq_error s with ⟨r, hr⟩ | herror
    · exact absurd hr (hnone r)
    · exact ⟨hnone, (Except.error.inj (herror.symm.trans h)).symm⟩
  · rintro ⟨hnone, rfl⟩
    rcases denotes_or_parse_eq_error s with ⟨r, hr⟩ | herror
    · exact absurd hr (hnone r)
    · exact herror

/-- The text of a repository that was referred to refers to it again. -/
theorem Denotes.text (h : Denotes cs r) : Denotes r.text.toList r := by
  obtain ⟨org, name, -, horg, hname, htrim, htrim', hne, hne'⟩ := h
  refine ⟨r.org.toList, r.name.toList, ?_, fun hmem => horg (htrim.subset hmem),
    fun hmem => hname (htrim'.subset hmem), htrim.again, htrim'.again, hne, hne'⟩
  simp [RepositoryId.text]

end RepositoryId

/-! ## Items -/

namespace IssueRef

variable {s : String} {cs : List Char} {ref : IssueRef}

/-- A text ends with a number behind its last `#`, which may stand between blanks. -/
def Numbered (cs repository : List Char) (n : Nat) : Prop :=
  ∃ number numeral, cs = repository ++ '#' :: number ∧ '#' ∉ number ∧ Trims number numeral ∧
    DenotesWord numeral n

/-- A text refers to an item: a repository stands before its number. -/
def Denotes (cs : List Char) (ref : IssueRef) : Prop :=
  ∃ repository, Numbered cs repository ref.number ∧ RepositoryId.Denotes repository ref.repository

/-- The number is read before the repository. -/
theorem parse_of_numbered {repository : List Char} {n : Nat}
    (h : Numbered s.toList repository n) :
    parse s = (RepositoryId.parse (String.ofList repository)).map fun r => ⟨r, n⟩ := by
  obtain ⟨number, numeral, hs, hnot, htrim, hword⟩ := h
  unfold parse
  rw [splitLast?_eq_some_iff.2 ⟨hs, hnot⟩]
  dsimp only
  rw [htrim.trimChars_eq, readNat64?_eq_some_iff.2 hword]

theorem numbered_or_parse_eq_error (s : String) :
    (∃ repository n, Numbered s.toList repository n) ∨ parse s = .error (.issue s) := by
  unfold parse
  split
  · exact .inr rfl
  · next repository number hcut =>
    obtain ⟨hs, hnot⟩ := splitLast?_eq_some_iff.1 hcut
    split
    · exact .inr rfl
    · next n hn =>
      exact .inl ⟨repository, n, number, trimChars number, hs, hnot, trims_trimChars number,
        readNat64?_eq_some_iff.1 hn⟩

theorem parse_of_denotes (h : Denotes s.toList ref) : parse s = .ok ref := by
  obtain ⟨repository, hnumber, hrepository⟩ := h
  rw [parse_of_numbered hnumber, RepositoryId.parse_of_denotes (r := ref.repository)]
  · rfl
  · rwa [String.toList_ofList]

theorem parse_eq_ok_iff : parse s = .ok ref ↔ Denotes s.toList ref := by
  refine ⟨fun h => ?_, parse_of_denotes⟩
  rcases numbered_or_parse_eq_error s with ⟨repository, n, hnumber⟩ | herror
  · rw [parse_of_numbered hnumber] at h
    cases hrepository : RepositoryId.parse (String.ofList repository) with
    | error e =>
      rw [hrepository] at h
      cases h
    | ok r =>
      rw [hrepository] at h
      cases h
      rw [RepositoryId.parse_eq_ok_iff, String.toList_ofList] at hrepository
      exact ⟨repository, hnumber, hrepository⟩
  · rw [herror] at h
    cases h

theorem parse_eq_error_iff {e : ReferenceError} : parse s = .error e ↔
    (∀ repository n, ¬ Numbered s.toList repository n) ∧ e = .issue s ∨
      ∃ repository n, Numbered s.toList repository n ∧
        (∀ r, ¬ RepositoryId.Denotes repository r) ∧
          e = .repository (String.ofList repository) := by
  by_cases hnumbered : ∃ repository n, Numbered s.toList repository n
  · constructor
    · intro h
      obtain ⟨repository, n, hnumber⟩ := hnumbered
      rw [parse_of_numbered hnumber] at h
      have herror : RepositoryId.parse (String.ofList repository) = .error e := by
        cases hrepository : RepositoryId.parse (String.ofList repository) with
        | error e' =>
          rw [hrepository] at h
          exact congrArg Except.error (Except.error.inj h)
        | ok r =>
          rw [hrepository] at h
          cases h
      rw [RepositoryId.parse_eq_error_iff, String.toList_ofList] at herror
      exact .inr ⟨repository, n, hnumber, herror⟩
    · rintro (⟨hnone, -⟩ | ⟨repository, n, hnumber, hnone, rfl⟩)
      · obtain ⟨repository, n, hnumber⟩ := hnumbered
        exact absurd hnumber (hnone repository n)
      · rw [parse_of_numbered hnumber, RepositoryId.parse_eq_error_iff.2 ⟨?_, rfl⟩]
        · rfl
        · rwa [String.toList_ofList]
  · have hnone (repository : List Char) (n : Nat) : ¬ Numbered s.toList repository n :=
      fun hnumber => hnumbered ⟨repository, n, hnumber⟩
    rw [(numbered_or_parse_eq_error s).resolve_left hnumbered]
    constructor
    · intro h
      exact .inl ⟨hnone, (Except.error.inj h).symm⟩
    · rintro (⟨-, rfl⟩ | ⟨repository, n, hnumber, -⟩)
      · rfl
      · exact absurd hnumber (hnone repository n)

theorem hash_notMem_decimal (n : Nat) : '#' ∉ decimal n := by
  intro hmem
  exact forall_mem_decimal (P := (· ≠ '#')) (by decide) n '#' hmem rfl

/-- The text of an item that was referred to refers to it again. -/
theorem Denotes.text (h : Denotes cs ref) : Denotes ref.text.toList ref := by
  obtain ⟨repository, ⟨number, numeral, -, -, -, hword⟩, hrepository⟩ := h
  obtain ⟨_, _, _, _, _, hlimit⟩ := hword
  have hdigits : ∀ c ∈ decimal ref.number, isBlank c = false :=
    forall_mem_decimal (by decide) ref.number
  refine ⟨ref.repository.text.toList, ⟨decimal ref.number, decimal ref.number, ?_,
    hash_notMem_decimal ref.number, trims_of_not_isBlank hdigits, denotesWord_decimal hlimit⟩,
    hrepository.text⟩
  simp [IssueRef.text, decimalText]

end IssueRef

/-! ## Reading back -/

/-- The readers accept the texts of references, and report the others: the number of an item is
checked first, then its repository. What was read is written so that it reads the same, and
different references are written differently. -/
theorem references_read_back :
    (∀ s r, RepositoryId.parse s = .ok r ↔ RepositoryId.Denotes s.toList r) ∧
    (∀ s e, RepositoryId.parse s = .error e ↔
      (∀ r, ¬ RepositoryId.Denotes s.toList r) ∧ e = .repository s) ∧
    (∀ s ref, IssueRef.parse s = .ok ref ↔ IssueRef.Denotes s.toList ref) ∧
    (∀ s e, IssueRef.parse s = .error e ↔
      (∀ repository n, ¬ IssueRef.Numbered s.toList repository n) ∧ e = .issue s ∨
      ∃ repository n, IssueRef.Numbered s.toList repository n ∧
        (∀ r, ¬ RepositoryId.Denotes repository r) ∧ e = .repository (String.ofList repository)) ∧
    (∀ s r, RepositoryId.parse s = .ok r → RepositoryId.parse r.text = .ok r ∧
      ∀ s' r', RepositoryId.parse s' = .ok r' → (r.text = r'.text ↔ r = r')) ∧
    ∀ s ref, IssueRef.parse s = .ok ref → IssueRef.parse ref.text = .ok ref ∧
      ∀ s' ref', IssueRef.parse s' = .ok ref' → (ref.text = ref'.text ↔ ref = ref') := by
  have hrepository {s : String} {r : RepositoryId} (h : RepositoryId.parse s = .ok r) :
      RepositoryId.parse r.text = .ok r :=
    RepositoryId.parse_of_denotes (RepositoryId.parse_eq_ok_iff.1 h).text
  have hissue {s : String} {ref : IssueRef} (h : IssueRef.parse s = .ok ref) :
      IssueRef.parse ref.text = .ok ref :=
    IssueRef.parse_of_denotes (IssueRef.parse_eq_ok_iff.1 h).text
  refine ⟨fun _ _ => RepositoryId.parse_eq_ok_iff, fun _ _ => RepositoryId.parse_eq_error_iff,
    fun _ _ => IssueRef.parse_eq_ok_iff, fun _ _ => IssueRef.parse_eq_error_iff,
    fun s r h => ⟨hrepository h, fun s' r' h' => ⟨fun htext => ?_, congrArg _⟩⟩,
    fun s ref h => ⟨hissue h, fun s' ref' h' => ⟨fun htext => ?_, congrArg _⟩⟩⟩
  · exact Except.ok.inj ((hrepository h).symm.trans (htext ▸ hrepository h'))
  · exact Except.ok.inj ((hissue h).symm.trans (htext ▸ hissue h'))

/-- A name with a blank and a `#` in it, and a number with a sign and leading zeros. -/
theorem references_read_back_blanks :
    let r : RepositoryId := ⟨"istio", "a #1"⟩
    RepositoryId.parse "	istio /a #1" = .ok r ∧ RepositoryId.parse "istio/a #1" = .ok r ∧
      IssueRef.parse " istio/ a #1 # +007 " = .ok ⟨r, 7⟩ ∧
      IssueRef.parse "istio/a #1#7" = .ok ⟨r, 7⟩ := by
  intro r
  have hread : RepositoryId.parse "	istio /a #1" = .ok r := by decide
  have hissue : IssueRef.parse " istio/ a #1 # +007 " = .ok ⟨r, 7⟩ := by decide
  have htext : IssueRef.text ⟨r, 7⟩ = "istio/a #1#7" := by decide +kernel
  obtain ⟨-, -, -, -, hrepositories, hissues⟩ := references_read_back
  exact ⟨hread, (hrepositories _ _ hread).1, hissue, htext ▸ (hissues _ _ hissue).1⟩

end Upkeep
