import Upkeep.Host.Mapping
import Upkeep.Text.Punycode
import Upkeep.Text.Search
import Upkeep.Unicode.Direction
import Upkeep.Unicode.Joining
import Upkeep.Unicode.Normal
/-!
Host names.

A host name is made of labels with dots between them. It may be written in any script, and `ascii?`
gives the form in which it is looked up: names that look the same are the same, and a label that is
not ASCII becomes `xn--` and its Punycode. A label that is written in that form already has to be
one that this would give.
-/

namespace Upkeep.HostName

open Unicode

/-- What a label starts with that is written in Punycode. -/
def punycodeMark : List Char := "xn--".toList

/-- ASCII characters that a host name may not have: blanks, control characters, and those that have
a meaning in an address. -/
def isForbidden (c : Char) : Bool :=
  c.toNat ≤ 0x20 || c.toNat == 0x7F || "#%/:<>?@[\x5c]^|".toList.contains c

/-- No label that is not ASCII has more characters. -/
def longestLabel : Nat := 1000

/-- No label has more characters of Punycode. -/
def longestPunycode : Nat := 2000

/-- The text is in ASCII. -/
def isAscii (cs : List Char) : Bool := cs.all Punycode.isBasic

/-- The label that a text in Punycode stands for. It is one that the text is needed for, and that
would not become another one. -/
def decoded? (cs : List Char) : Option (List Char) := do
  let label ← if cs.length ≤ longestPunycode then Punycode.decode? cs else none
  if !isAscii label && label.all isKept && normalize label == label then some label else none

/-- A label in plain characters. -/
def plain? (label : List Char) : Option (List Char) :=
  if punycodeMark.isPrefixOf label then decoded? (label.drop punycodeMark.length) else some label

/-- The label does not start with a mark, its joiners stand where they may, and it is not too
long. -/
def isWellFormed (label : List Char) : Bool :=
  !(label.head?.map isMark).getD false && joinersFit label && label.length ≤ longestLabel

/-- A label as it is looked up. -/
def lookedUp (label : List Char) : List Char :=
  if isAscii label then label else punycodeMark ++ Punycode.encode label

/-- The form in which a host name is looked up. -/
def ascii? (cs : List Char) : Option (List Char) := do
  let name := normalize (← cs.mapM mapChar?).flatten
  let labels ← (splitWhere (· == '.') name).mapM plain?
  let isFine (label : List Char) : Bool :=
    isAscii label || isWellFormed label
  if name.any isForbidden || !labels.all isFine then none
  else if labels.any hasRightToLeft && !labels.all keepsDirection then none
  else some (['.'].intercalate (labels.map lookedUp))

end Upkeep.HostName
