import Upkeep.Unicode.Canonical
import Upkeep.Unicode.Mark
/-!
Joining: which letters of cursive scripts connect to their neighbours.

`joinersFit` says where the two invisible joiners may stand: behind a virama, and the one that keeps
letters apart also between two letters that would connect otherwise.
-/

namespace Upkeep.Unicode

/-- The letters that connect to both neighbours. -/
def joiningOnBothSides : CharSet := .ofText
  "0620 0626 0628 062A-062E 0633-063F 0641-0647 0649-064A 066E-066F 0678-0687 069A-06BF 06C1-06C2
  06CC 06CE 06D0-06D1 06FA-06FC 06FF 0712-0714 071A-071D 071F-0727 0729 072B 072D-072E 074E-0758
  075C-076A 076D-0770 0772 0775-0777 077A-077F 07CA-07EA 0841-0845 0848 084A-0853 0855 0860
  0862-0865 0868 0886 0889-088D 088F 08A0-08A9 08AF-08B0 08B3-08B8 08BA-08C8 1807 1820-1878
  1887-18A8 18AA A840-A871 10AC0-10AC4 10AD3-10AD6 10AD8-10ADC 10ADE-10AE0 10AEB-10AEE 10B80
  10B82 10B86-10B88 10B8A-10B8B 10B8D 10B90 10BAD-10BAE 10D01-10D21 10D23 10EC3-10EC4 10EC6-10EC7
  10F30-10F32 10F34-10F44 10F51-10F53 10F70-10F73 10F76-10F81 10FB0 10FB2-10FB3 10FB8 10FBB-10FBC
  10FBE-10FBF 10FC1 10FC4 10FCA 1E900-1E943"

/-- The letters that connect to the letter before them only. -/
def joiningBefore : CharSet := .ofText
  "0622-0625 0627 0629 062F-0632 0648 0671-0673 0675-0677 0688-0699 06C0 06C3-06CB 06CD 06CF
  06D2-06D3 06D5 06EE-06EF 0710 0715-0719 071E 0728 072A 072C 072F 074D 0759-075B 076B-076C 0771
  0773-0774 0778-0779 0840 0846-0847 0849 0854 0856-0858 0867 0869-086A 0870-0882 088E 08AA-08AC
  08AE 08B1-08B2 08B9 10AC5 10AC7 10AC9-10ACA 10ACE-10AD2 10ADD 10AE1 10AE4 10AEF 10B81
  10B83-10B85 10B89 10B8C 10B8E-10B8F 10B91 10BA9-10BAC 10D22 10EC2 10F33 10F54 10F74-10F75
  10FB4-10FB6 10FB9-10FBA 10FBD 10FC2-10FC3 10FC9"

/-- The letters that connect to the letter behind them only. -/
def joiningBehind : CharSet := .ofText
  "A872 10ACD 10AD7 10D00 10FCB"

/-- The character does not come between letters that connect: a mark, or the dot under letters of
the Adlam script. -/
def isTransparent (c : Char) : Bool := isNonspacing c || c.toNat == 0x1E94B

/-- The joiner that connects letters. -/
def joiner : Char := Char.ofNat 0x200D

/-- The joiner that keeps letters apart. -/
def nonJoiner : Char := Char.ofNat 0x200C

/-- A text goes on, from its near end, with a character of a set, after transparent ones. -/
def meets (p : Char → Bool) (cs : List Char) : Bool :=
  ((cs.dropWhile isTransparent).head?.map p).getD false

/-- The joiners of a text stand where they may. `before` is the text in front, the last character
first. -/
def joinersFitBehind (before : List Char) : List Char → Bool
  | [] => true
  | c :: cs =>
    (c != joiner && c != nonJoiner || (before.head?.map isVirama).getD false ||
      c == nonJoiner &&
        meets (fun d => joiningOnBothSides.contains d || joiningBehind.contains d) before &&
        meets (fun d => joiningOnBothSides.contains d || joiningBefore.contains d) cs) &&
      joinersFitBehind (c :: before) cs

/-- The joiners of a text stand where they may. -/
def joinersFit (cs : List Char) : Bool := joinersFitBehind [] cs

end Upkeep.Unicode
