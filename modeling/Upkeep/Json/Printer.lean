import Upkeep.Text.Numeral
import Upkeep.Value
/-!
JSON text of a value.

The text has no blanks, or stands on lines that are indented by depth. A table is written in the
order of its entries, and a part that could not be read as null. In strings the quotation mark, the
backslash and the control characters below U+0020 are escaped and all else stands for itself.
-/

namespace Upkeep.Json

/-- A character inside a JSON string. -/
def escapeChar (c : Char) : List Char :=
  if c = '\x22' then ['\x5c', '\x22']
  else if c = '\x5c' then ['\x5c', '\x5c']
  else if c = '\n' then ['\x5c', 'n']
  else if c = '\r' then ['\x5c', 'r']
  else if c = '\t' then ['\x5c', 't']
  else if c = '\x08' then ['\x5c', 'b']
  else if c = '\x0c' then ['\x5c', 'f']
  else if c.toNat < 0x20 then
    ['\x5c', 'u', '0', '0', hexDigitLower (c.toNat / 16), hexDigitLower (c.toNat % 16)]
  else [c]

/-- A JSON string with its quotation marks. -/
def quote (s : String) : String :=
  String.ofList ('\x22' :: (s.toList.flatMap escapeChar ++ ['\x22']))

mutual

/-- The compact JSON text of a value. -/
def print : Value → String
  | .null => "null"
  | .unreadable => "null"
  | .bool true => "true"
  | .bool false => "false"
  | .int n => integerText n
  | .real literal => literal
  | .text s => quote s
  | .list items => "[" ++ ",".intercalate (printItems items) ++ "]"
  | .table entries => "\x7b" ++ ",".intercalate (printEntries entries) ++ "\x7d"

def printItems : List Value → List String
  | [] => []
  | v :: vs => print v :: printItems vs

def printEntries : List (String × Value) → List String
  | [] => []
  | (k, v) :: rest => (quote k ++ ":" ++ print v) :: printEntries rest

end

mutual

/-- The JSON text of a value on lines of its own, indented by two blanks a level. The lines after
the first begin with `indent`. -/
def pretty (indent : String) : Value → String
  | .list (v :: vs) =>
    "[\n" ++ ",\n".intercalate (prettyItems (indent ++ "  ") (v :: vs)) ++ "\n" ++ indent ++ "]"
  | .table (e :: es) =>
    "\x7b\n" ++ ",\n".intercalate (prettyEntries (indent ++ "  ") (e :: es)) ++ "\n" ++ indent ++
      "\x7d"
  | .list [] => "[]"
  | .table [] => "\x7b\x7d"
  | .null => print .null
  | .unreadable => print .unreadable
  | .bool b => print (.bool b)
  | .int n => print (.int n)
  | .real literal => print (.real literal)
  | .text s => print (.text s)

def prettyItems (indent : String) : List Value → List String
  | [] => []
  | v :: vs => (indent ++ pretty indent v) :: prettyItems indent vs

def prettyEntries (indent : String) : List (String × Value) → List String
  | [] => []
  | (k, v) :: rest => (indent ++ quote k ++ ": " ++ pretty indent v) :: prettyEntries indent rest

end

end Upkeep.Json
