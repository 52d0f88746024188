import Upkeep.Toml.Scalar
import Upkeep.Toml.Tree
/-!
TOML documents.

A document is read into its statements, and these into one value: the table at the root, with the
entries of every table in document order. Lists may go over several lines, tables in braces may
not. Lists and tables in braces nest less than eighty deep.
-/

namespace Upkeep.Toml

/-- Lists, tables in braces and the parts of a key stay below this number. -/
def nestingLimit : Nat := 80

/-! ## Values -/

/-- The items of a list, its opening bracket already read. -/
def listItems? (item? : List Char → Option (Value × List Char)) :
    Nat → List Char → Option (List Value × List Char)
  | 0, _ => none
  | fuel + 1, cs =>
    match skipLines (cs.length + 1) cs with
    | ']' :: cs => some ([], cs)
    | cs => do
      let (v, cs) ← item? cs
      match skipLines (cs.length + 1) cs with
      | ',' :: cs =>
        let (vs, cs) ← listItems? item? fuel cs
        return (v :: vs, cs)
      | ']' :: cs => return ([v], cs)
      | _ => none

/-- A key with the value assigned to it. -/
def assignment? (value? : List Char → Option (Value × List Char)) (cs : List Char) :
    Option (Statement × List Char) := do
  let (path, cs) ← key? (nestingLimit - 1) cs
  let key ← path.getLast?
  let cs ← char? '=' cs
  let (v, cs) ← value? (skipBlanks cs)
  return (.assign path.dropLast key v, cs)

/-- The assignments of a table in braces, each with a comma or the closing brace behind it. -/
def bracedAssignments? (value? : List Char → Option (Value × List Char)) :
    Nat → List Char → Option (List Statement × List Char)
  | 0, _ => none
  | fuel + 1, cs => do
    let (s, cs) ← assignment? value? cs
    match skipBlanks cs with
    | ',' :: cs =>
      let (ss, cs) ← bracedAssignments? value? fuel cs
      return (s :: ss, cs)
    | '\x7d' :: cs => return ([s], cs)
    | _ => none

/-- A table in braces, its opening brace already read. -/
def bracedTable? (value? : List Char → Option (Value × List Char)) (cs : List Char) :
    Option (Value × List Char) :=
  match skipBlanks cs with
  | '\x7d' :: cs => some (.table [], cs)
  | cs => do
    let (statements, cs) ← bracedAssignments? value? (cs.length + 1) cs
    return (← valueOf? statements, cs)

/-- A value, with at most the given number of lists and tables in braces around each other. -/
def value? : Nat → List Char → Option (Value × List Char)
  | 0, cs => scalar cs
  | levels + 1, cs =>
    match cs with
    | '[' :: cs =>
      (listItems? (value? levels) (cs.length + 1) cs).map fun (vs, cs) => (.list vs, cs)
    | '\x7b' :: cs => bracedTable? (value? levels) cs
    | cs => scalar cs

/-! ## Statements -/

/-- The key of a header, up to its closing bracket. -/
def headerKey? (cs : List Char) : Option (List String × String × List Char) := do
  let (path, cs) ← key? (nestingLimit - 1) cs
  return (path.dropLast, ← path.getLast?, ← char? ']' cs)

/-- A statement, without the rest of its line. -/
def statement? (cs : List Char) : Option (Statement × List Char) :=
  match cs with
  | '[' :: '[' :: cs => do
    let (parents, key, cs) ← headerKey? cs
    return (.openItem parents key, ← char? ']' cs)
  | '[' :: cs => do
    let (parents, key, cs) ← headerKey? cs
    return (.openTable parents key, cs)
  | cs => assignment? (value? (nestingLimit - 1)) cs

/-- The statements of a document, each on lines of its own. -/
def statements? : Nat → List Char → Option (List Statement)
  | 0, _ => none
  | fuel + 1, cs =>
    match skipLines (cs.length + 1) cs with
    | [] => some []
    | cs => do
      let (s, cs) ← statement? cs
      return s :: (← statements? fuel (← lineEnd? cs))

/-- The text without the mark that may stand at its start. -/
def withoutMark : List Char → List Char
  | '\uFEFF' :: cs => cs
  | cs => cs

/-- The root table of a document. -/
def parse? (text : String) : Option Value :=
  let cs := withoutMark text.toList
  (statements? (cs.length + 1) cs).bind valueOf?

end Upkeep.Toml
