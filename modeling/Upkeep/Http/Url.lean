import Upkeep.Host
/-!
Addresses of web services.

`Url.parse?` reads an absolute `http` or `https` address into its parts and brings them into normal
form: scheme and host in lower case, the service number left out when it is the usual one, dot
segments of the path resolved, and characters that an address may not carry percent-encoded.
-/

namespace Upkeep

/-- An absolute address. -/
structure Url where
  scheme : String
  /-- Who the service is asked for, as in `name:password`; empty for nobody. -/
  user : String
  host : Host
  /-- The service number, unless it is the usual one. -/
  service? : Option Nat
  /-- The path with its leading slash. -/
  path : String
  query : Option String
  fragment : Option String
deriving DecidableEq, Repr

namespace Url

/-- User, host and service number. -/
def authority (u : Url) : String :=
  (if u.user.isEmpty then "" else u.user ++ "@") ++ u.host.text ++ match u.service? with
    | some n => ":" ++ decimalText n
    | none => ""

/-- Path and query, as a request names them. -/
def target (u : Url) : String :=
  u.path ++ match u.query with
    | some q => "?" ++ q
    | none => ""

def text (u : Url) : String :=
  u.scheme ++ "://" ++ u.authority ++ u.target ++ match u.fragment with
    | some f => "#" ++ f
    | none => ""

/-- The address with parameters added to its query. Names and values are plain words. -/
def addQuery (u : Url) (parameters : List (String × String)) : Url :=
  let added := "&".intercalate (parameters.map fun (k, v) => k ++ "=" ++ v)
  match u.query with
  | none => { u with query := some added }
  | some "" => { u with query := some added }
  | some q => { u with query := some (q ++ "&" ++ added) }

/-! ## Encoding -/

/-- Percent-encodes the characters that are not printable ASCII, and those for which the given
test holds. -/
def encode (special : Char → Bool) (cs : List Char) : List Char :=
  cs.flatMap fun c =>
    if c.toNat < 0x21 || 0x7E < c.toNat || special c then percentChar c else [c]

def isPathSpecial (c : Char) : Bool :=
  c == '\x22' || c == '#' || c == '<' || c == '>' || c == '?' || c == '\x60' || c == '\x7b' ||
    c == '\x7d'

def isQuerySpecial (c : Char) : Bool :=
  c == '\x22' || c == '#' || c == '<' || c == '>' || c == '\x27'

def isFragmentSpecial (c : Char) : Bool := c == '\x22' || c == '<' || c == '>' || c == '\x60'

/-! ## The path -/

/-- The segment stands for the segment itself. -/
def isSingleDot (segment : List Char) : Bool :=
  [".", "%2e"].contains (String.ofList (segment.map Char.toLower))

/-- The segment stands for the one above. -/
def isDoubleDot (segment : List Char) : Bool :=
  ["..", ".%2e", "%2e.", "%2e%2e"].contains (String.ofList (segment.map Char.toLower))

/-- Cuts a path at its slashes; a backslash counts as one. -/
def segments (cs : List Char) : List (List Char) := splitWhere (fun c => c == '/' || c == '\x5c') cs

/-- The segment names a drive: a letter, and a colon or a bar. -/
def isDrive : List Char → Bool
  | [letter, mark] => letter.isAlpha && (mark == ':' || mark == '|')
  | _ => false

/-- Leaves the last of the segments passed, unless it names a drive. -/
def leave : List (List Char) → List (List Char)
  | [] => []
  | s :: above => if isDrive s then s :: above else above

/-- Resolves dot segments. `above` holds the segments passed, the last one first. -/
def resolve : List (List Char) → List (List Char) → List (List Char)
  | above, [] => above.reverse
  | above, [s] =>
    if isDoubleDot s then ([] :: leave above).reverse
    else if isSingleDot s then ([] :: above).reverse
    else (encode isPathSpecial s :: above).reverse
  | above, s :: rest =>
    if isDoubleDot s then resolve (leave above) rest
    else if isSingleDot s then resolve above rest
    else resolve (encode isPathSpecial s :: above) rest

/-- The normal form of a path that follows an authority. -/
def normalPath (cs : List Char) : List Char :=
  let relative := match cs with
    | '/' :: rest => rest
    | '\x5c' :: rest => rest
    | rest => rest
  (resolve [] (segments relative)).flatMap ('/' :: ·)

/-! ## User, host and service number -/

/-- Characters that have a meaning next to a user's name. -/
def isUserSpecial (c : Char) : Bool := isPathSpecial c || "/:;=@[\x5c]^|".toList.contains c

/-- The normal form of a user: an empty password is left out with its colon. -/
def normalUser (cs : List Char) : List Char :=
  match splitFirst? ':' cs with
  | some (name, p :: ps) => encode isUserSpecial name ++ ':' :: encode isUserSpecial (p :: ps)
  | some (name, []) => encode isUserSpecial name
  | none => encode isUserSpecial cs

/-- Cuts host and service number at the first colon that is not in brackets. -/
def splitService (inBrackets : Bool) : List Char → List Char × List Char
  | [] => ([], [])
  | c :: cs =>
    if c == ':' && !inBrackets then ([], cs)
    else
      let (host, service) := splitService (c == '[' || inBrackets && c != ']') cs
      (c :: host, service)

/-- The usual service number of a scheme. -/
def usualService (scheme : String) : Nat := if scheme = "https" then 443 else 80

/-- Reads a service number. There is none when it is the usual one or not given at all. -/
def serviceOf? (scheme : String) (cs : List Char) : Option (Option Nat) :=
  if cs.isEmpty then some none
  else
    (readDecimal? cs).bind fun n =>
      if 65535 < n then none else if n = usualService scheme then some none else some (some n)

/-! ## Reading an address -/

/-- A text without the blanks and control characters at its ends and without line ends inside. -/
def cleaned (s : String) : List Char :=
  let isEdge (c : Char) : Bool := c.toNat ≤ 0x20
  let inner := ((s.toList.dropWhile isEdge).reverse.dropWhile isEdge).reverse
  inner.filter fun c => c != '\t' && c != '\n' && c != '\r'

/-- The scheme of an address, in lower case, and what follows its colon. -/
def scheme? (cs : List Char) : Option (String × List Char) :=
  (splitFirst? ':' cs).map fun (s, rest) => (String.ofList (s.map Char.toLower), rest)

/-- Reads an absolute `http` or `https` address. -/
def parse? (s : String) : Option Url := do
  let (scheme, rest) ← scheme? (cleaned s)
  if scheme ≠ "http" ∧ scheme ≠ "https" then none
  else
    let rest := rest.dropWhile fun c => c == '/' || c == '\x5c'
    let isEnd (c : Char) : Bool := c == '/' || c == '\x5c' || c == '?' || c == '#'
    let authority := rest.takeWhile fun c => !isEnd c
    let afterAuthority := rest.drop authority.length
    let (user, hostAndService) := (splitLast? '@' authority).getD ([], authority)
    let (host, service) := splitService false hostAndService
    let (beforeFragment, fragment) := match splitFirst? '#' afterAuthority with
      | some (a, f) => (a, some (String.ofList (encode isFragmentSpecial f)))
      | none => (afterAuthority, none)
    let (path, query) := match splitFirst? '?' beforeFragment with
      | some (p, q) => (p, some (String.ofList (encode isQuerySpecial q)))
      | none => (beforeFragment, none)
    return {
      scheme
      user := String.ofList (normalUser user)
      host := ← Host.parse? host
      service? := ← serviceOf? scheme service
      path := String.ofList (normalPath path)
      query
      fragment }

end Url

end Upkeep
