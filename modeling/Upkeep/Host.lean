import Upkeep.Host.Ip4
import Upkeep.Host.Ip6
import Upkeep.Host.Name
import Upkeep.Text.PercentEncoding
/-!
Hosts of addresses.

A host is named, or it is given by its number. `Host.parse?` reads one as it stands in an address,
where it may be percent-encoded, and `Host.text` writes its normal form.
-/

namespace Upkeep

/-- The host of an address. -/
inductive Host where
  | name (text : String)
  | ip4 (address : Ip4)
  | ip6 (address : Ip6)
deriving DecidableEq, Repr

namespace Host

/-- The normal form of a host. -/
def text : Host → String
  | .name s => s
  | .ip4 a => String.ofList a.text
  | .ip6 a => "[" ++ String.ofList a.text ++ "]"

/-- Reads a host that is not in brackets. -/
def named? (cs : List Char) : Option Host := do
  let decoded ← String.fromUTF8? ⟨(percentDecode cs).toArray⟩
  let name ← HostName.ascii? decoded.toList
  if name.isEmpty then none
  else if Ip4.isExpected name then (Ip4.parse? name).map .ip4
  else some (.name (String.ofList name))

/-- Reads a host. -/
def parse? : List Char → Option Host
  | '[' :: rest =>
    if rest.getLast? = some ']' then (Ip6.parse? rest.dropLast).map .ip6 else none
  | cs => named? cs

end Host

end Upkeep
