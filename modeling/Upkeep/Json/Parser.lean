import Upkeep.Text.Double
import Upkeep.Text.Numeral
import Upkeep.Value
/-!
Reading JSON text.

`Json.read?` accepts the grammar of RFC 8259 and nothing else. An integer in the range of 64-bit
words becomes an integer value; any other number, a negative zero included, keeps its text. Some
parts are well formed but unreadable: strings and keys with half of a surrogate pair, numbers beyond
double precision, and lists and tables in too many others. `Json.parse?` takes only texts without
such parts.
-/

namespace Upkeep.Json

/-- The blanks that may stand between tokens. -/
def isSpace (c : Char) : Bool := c == ' ' || c == '\n' || c == '\r' || c == '\t'

def skipSpaces (cs : List Char) : List Char := cs.dropWhile isSpace

/-- The four hexadecimal digits of an escaped code unit. -/
def codeUnit? : List Char → Option (Nat × List Char)
  | a :: b :: c :: d :: rest => do
    let high := (← hexValue? a) * 16 + (← hexValue? b)
    let n := (high * 16 + (← hexValue? c)) * 16 + (← hexValue? d)
    some (n, rest)
  | _ => none

/-- The character escaped by code units, of which a surrogate needs a second one. There is no
character when a surrogate stands alone. -/
def unicodeEscape? (cs : List Char) : Option (Option Char × List Char) := do
  let (u, rest) ← codeUnit? cs
  if 0xD800 ≤ u ∧ u < 0xDC00 then
    match rest with
    | '\x5c' :: 'u' :: more =>
      let (v, more) ← codeUnit? more
      if 0xDC00 ≤ v ∧ v < 0xE000 then
        some (some (Char.ofNat (0x10000 + (u - 0xD800) * 0x400 + (v - 0xDC00))), more)
      else some (none, rest)
    | _ => some (none, rest)
  else if 0xDC00 ≤ u ∧ u < 0xE000 then some (none, rest)
  else some (some (Char.ofNat u), rest)

/-- The character that an escape sequence stands for, its backslash already read. -/
def escape? : List Char → Option (Option Char × List Char)
  | '\x22' :: cs => some (some '\x22', cs)
  | '\x5c' :: cs => some (some '\x5c', cs)
  | '/' :: cs => some (some '/', cs)
  | 'b' :: cs => some (some '\x08', cs)
  | 'f' :: cs => some (some '\x0c', cs)
  | 'n' :: cs => some (some '\n', cs)
  | 'r' :: cs => some (some '\r', cs)
  | 't' :: cs => some (some '\t', cs)
  | 'u' :: cs => unicodeEscape? cs
  | _ => none

/-- The characters of a string up to its closing quotation mark, its opening one already read.
`acc` holds the characters passed, the last one first, unless one of them could not be read. -/
def stringBody : Nat → Option (List Char) → List Char → Option (Option String × List Char)
  | 0, _, _ => none
  | _ + 1, _, [] => none
  | fuel + 1, acc, c :: cs =>
    if c = '\x22' then some (acc.map fun acc => String.ofList acc.reverse, cs)
    else if c = '\x5c' then
      match escape? cs with
      | some (d?, cs) => stringBody fuel (acc.bind fun acc => d?.map (· :: acc)) cs
      | none => none
    else if c.toNat < 0x20 then none
    else stringBody fuel (acc.map (c :: ·)) cs

/-- The digits of an integer part: a lone zero, or digits that do not begin with zero. -/
def integerPart? (cs : List Char) : Option (List Char × List Char) :=
  match cs.takeWhile Char.isDigit with
  | [] => none
  | ['0'] => some (['0'], cs.drop 1)
  | '0' :: _ => none
  | ds => some (ds, cs.drop ds.length)

/-- The digits behind the point of a number, if there is one. -/
def fractionPart? : List Char → Option (List Char × List Char)
  | '.' :: cs =>
    match cs.takeWhile Char.isDigit with
    | [] => none
    | ds => some (ds, cs.drop ds.length)
  | cs => some ([], cs)

/-- The sign of an exponent. -/
def exponentSign : List Char → List Char × List Char
  | '+' :: cs => (['+'], cs)
  | '-' :: cs => (['-'], cs)
  | cs => ([], cs)

/-- The letter, sign and digits of an exponent, if there is one. -/
def exponentPart? : List Char → Option ((List Char × List Char × List Char) × List Char)
  | c :: cs =>
    if c = 'e' ∨ c = 'E' then
      let (sign, cs) := exponentSign cs
      match cs.takeWhile Char.isDigit with
      | [] => none
      | ds => some (([c], sign, ds), cs.drop ds.length)
    else some (([], [], []), c :: cs)
  | [] => some (([], [], []), [])

/-- Appends digits to a number as long as it fits in 64 bits. Gives the number and how many digits
it took. -/
def appendDigits : Nat → List Char → Nat × Nat
  | n, [] => (n, 0)
  | n, d :: ds =>
    if n * 10 + digitValue d < wordLimit then
      let (m, taken) := appendDigits (n * 10 + digitValue d) ds
      (m, taken + 1)
    else (n, 0)

/-- A number that is no integer of 64 bits is beyond double precision. Its leading digits make up an
integer of 64 bits, which is multiplied by a power of ten; both are rounded first. -/
def isTooGreat (whole fraction : List Char) (exponent : Int) : Bool :=
  let (n, taken) := appendDigits 0 whole
  let (n, takenBehind) := appendDigits n fraction
  let power : Int := (whole.length - taken : Nat) - (takenBehind : Int) + exponent
  if n = 0 || power < 0 then false
  else
    308 < power ||
      decide (Double.overflowBound ≤ Double.nearest n * Double.nearest (Nat.pow 10 power.toNat))

/-- A number, its sign and its parts given. -/
structure Number where
  negative : Bool
  whole : List Char
  fraction : List Char
  /-- The letter, sign and digits of the exponent. -/
  exponent : List Char × List Char × List Char

namespace Number

/-- The digits of the exponent as a number. -/
def exponentValue (n : Number) : Int :=
  let e : Int := digitsValue n.exponent.2.2
  if n.exponent.2.1 = ['-'] then -e else e

/-- The number as it was written. -/
def literal (n : Number) : String :=
  let (letter, sign, digits) := n.exponent
  String.ofList ((if n.negative then ['-'] else []) ++ n.whole ++
    (if n.fraction.isEmpty then [] else '.' :: n.fraction) ++ letter ++ sign ++ digits)

def toValue (n : Number) : Value :=
  let i : Int := if n.negative then -(digitsValue n.whole : Int) else digitsValue n.whole
  let isInteger := n.fraction.isEmpty && n.exponent.2.2.isEmpty
  if isInteger && Value.isWordInt i && !(n.negative && i == 0) then .int i
  else if isTooGreat n.whole n.fraction n.exponentValue then .unreadable
  else .real n.literal

end Number

/-- A number without its sign. -/
def unsignedNumber? (negative : Bool) (cs : List Char) : Option (Value × List Char) := do
  let (whole, cs) ← integerPart? cs
  let (fraction, cs) ← fractionPart? cs
  let (exponent, cs) ← exponentPart? cs
  some (Number.toValue ⟨negative, whole, fraction, exponent⟩, cs)

/-- A word with a value of its own. -/
def word? (cs : List Char) : Option (Value × List Char) :=
  match cs with
  | 't' :: 'r' :: 'u' :: 'e' :: cs => some (.bool true, cs)
  | 'f' :: 'a' :: 'l' :: 's' :: 'e' :: cs => some (.bool false, cs)
  | 'n' :: 'u' :: 'l' :: 'l' :: cs => some (.null, cs)
  | _ => none

mutual

/-- A value and the text behind it. The first argument bounds the steps of the reading: a step takes
one from it, and there are at most two steps for a character. -/
def value? : Nat → List Char → Option (Value × List Char)
  | 0, _ => none
  | fuel + 1, cs =>
    match skipSpaces cs with
    | [] => none
    | c :: cs =>
      if c = '\x22' then
        (stringBody fuel (some []) cs).map fun (s?, cs) =>
          (s?.elim .unreadable .text, cs)
      else if c = '[' then
        match skipSpaces cs with
        | ']' :: cs => some (.list [], cs)
        | cs => (items? fuel [] cs).map fun (vs, cs) => (.list vs, cs)
      else if c = '\x7b' then
        match skipSpaces cs with
        | '\x7d' :: cs => some (.table [], cs)
        | cs => (entries? fuel (some []) cs).map fun (es?, cs) =>
          (es?.elim .unreadable .table, cs)
      else if c = '-' then unsignedNumber? true cs
      else if c.isDigit then unsignedNumber? false (c :: cs)
      else word? (c :: cs)

/-- The items of a list up to its closing bracket. -/
def items? : Nat → List Value → List Char → Option (List Value × List Char)
  | 0, _, _ => none
  | fuel + 1, acc, cs =>
    match value? fuel cs with
    | none => none
    | some (v, cs) =>
      match skipSpaces cs with
      | ',' :: cs => items? fuel (v :: acc) cs
      | ']' :: cs => some ((v :: acc).reverse, cs)
      | _ => none

/-- The entries of a table up to its closing brace; none if one of the keys cannot be read. -/
def entries? : Nat → Option (List (String × Value)) → List Char →
    Option (Option (List (String × Value)) × List Char)
  | 0, _, _ => none
  | fuel + 1, acc, cs =>
    match skipSpaces cs with
    | '\x22' :: cs =>
      match stringBody fuel (some []) cs with
      | none => none
      | some (k?, cs) =>
        match skipSpaces cs with
        | ':' :: cs =>
          match value? fuel cs with
          | none => none
          | some (v, cs) =>
            let acc := acc.bind fun acc => k?.map fun k => (k, v) :: acc
            match skipSpaces cs with
            | ',' :: cs => entries? fuel acc cs
            | '\x7d' :: cs => some (acc.map List.reverse, cs)
            | _ => none
        | _ => none
    | _ => none

end

/-- Lists and tables nest at most this deep. -/
def nestingLimit : Nat := 127

/-- The value that a JSON text stands for, some parts of which may be unreadable. -/
def read? (s : String) : Option Value :=
  let cs := s.toList
  match value? (2 * cs.length + 2) cs with
  | some (v, rest) => if (skipSpaces rest).isEmpty then some (v.limitDepth nestingLimit) else none
  | none => none

/-- The value that a JSON text stands for, all of which must be readable. -/
def parse? (s : String) : Option Value := (read? s).filter Value.isReadable

end Upkeep.Json
