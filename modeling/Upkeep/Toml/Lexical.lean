import Upkeep.Text.Numeral
/-!
The lexical rules of TOML: blanks, comments, line ends, strings and keys.

Every reading step takes the rest of the text and gives what was read with the rest behind it, or
nothing when the text breaks a rule.
-/

namespace Upkeep.Toml

/-- A blank inside a line. -/
def isBlankInLine (c : Char) : Bool := c == ' ' || c == '\t'

def skipBlanks (cs : List Char) : List Char := cs.dropWhile isBlankInLine

/-- A character that may stand in a comment: the tab, and all but the control characters. -/
def isCommentChar (c : Char) : Bool := c == '\t' || (0x20 ≤ c.toNat && c.toNat != 0x7F)

/-- Passes over a comment, if there is one. -/
def skipComment (cs : List Char) : List Char :=
  match cs with
  | '#' :: cs => cs.dropWhile isCommentChar
  | cs => cs

/-- A line feed, with a carriage return in front of it or not. -/
def newline? : List Char → Option (List Char)
  | '\n' :: cs => some cs
  | '\r' :: '\n' :: cs => some cs
  | _ => none

/-- Passes over blanks, comments and line ends. -/
def skipLines : Nat → List Char → List Char
  | 0, cs => cs
  | fuel + 1, cs =>
    let cs := skipComment (skipBlanks cs)
    match newline? cs with
    | some cs => skipLines fuel cs
    | none => cs

/-- The rest of a line behind a statement: blanks, a comment, and the line end or the end of the
text. -/
def lineEnd? (cs : List Char) : Option (List Char) :=
  match skipComment (skipBlanks cs) with
  | [] => some []
  | cs => newline? cs

/-! ## Strings -/

/-- The character with the number given by exactly `n` hexadecimal digits. -/
def scalar? (n : Nat) (cs : List Char) : Option (Char × List Char) := do
  let digits := cs.take n
  if digits.length < n then none
  else
    let code ← digits.foldlM (fun v c => (hexValue? c).map (v * 16 + ·)) 0
    if code < 0xD800 ∨ (0xDFFF < code ∧ code < 0x110000) then
      some (Char.ofNat code, cs.drop n)
    else none

/-- The character of an escape sequence, its backslash already read. -/
def escape? : List Char → Option (Char × List Char)
  | 'b' :: cs => some ('\x08', cs)
  | 't' :: cs => some ('\t', cs)
  | 'n' :: cs => some ('\n', cs)
  | 'f' :: cs => some ('\x0c', cs)
  | 'r' :: cs => some ('\r', cs)
  | '\x22' :: cs => some ('\x22', cs)
  | '\x5c' :: cs => some ('\x5c', cs)
  | 'u' :: cs => scalar? 4 cs
  | 'U' :: cs => scalar? 8 cs
  | _ => none

/-- A string on one line up to its closing quotation mark. `acc` holds the characters passed, the
last one first. -/
def basicString : Nat → List Char → List Char → Option (String × List Char)
  | 0, _, _ => none
  | _ + 1, _, [] => none
  | fuel + 1, acc, c :: cs =>
    if c = '\x22' then some (String.ofList acc.reverse, cs)
    else if c = '\x5c' then
      match escape? cs with
      | some (d, cs) => basicString fuel (d :: acc) cs
      | none => none
    else if isCommentChar c then basicString fuel (c :: acc) cs
    else none

/-- A string without escapes on one line up to its closing apostrophe. -/
def literalString (cs : List Char) : Option (String × List Char) :=
  let body := cs.takeWhile fun c => isCommentChar c && c != '\x27'
  match cs.drop body.length with
  | '\x27' :: rest => some (String.ofList body, rest)
  | _ => none

/-- The quotation marks at the start of a text. -/
def countQuotes (quote : Char) (cs : List Char) : Nat := (cs.takeWhile (· == quote)).length

/-- Passes over blanks and line ends. -/
def skipBlankLines : List Char → List Char
  | '\r' :: '\n' :: cs => skipBlankLines cs
  | c :: cs => if isBlankInLine c || c == '\n' then skipBlankLines cs else c :: cs
  | [] => []

/-- Passes over the blanks and line ends that a backslash at the end of a line joins. -/
def skipJoined (cs : List Char) : Option (List Char) :=
  (newline? (skipBlanks cs)).map skipBlankLines

/-- A string over several lines up to its closing marks. Up to two marks may stand right before the
closing ones. Without escapes a backslash stands for itself. -/
def multiLine (quote : Char) (escapes : Bool) :
    Nat → List Char → List Char → Option (String × List Char)
  | 0, _, _ => none
  | _ + 1, _, [] => none
  | fuel + 1, acc, c :: cs =>
    if c = quote then
      let n := countQuotes quote (c :: cs)
      if 3 ≤ n then
        let inside := min (n - 3) 2
        some (String.ofList (acc.reverse ++ List.replicate inside quote),
          (c :: cs).drop (inside + 3))
      else multiLine quote escapes fuel (c :: acc) cs
    else if escapes ∧ c = '\x5c' then
      match skipJoined cs with
      | some rest => multiLine quote escapes fuel acc rest
      | none =>
        match escape? cs with
        | some (d, cs) => multiLine quote escapes fuel (d :: acc) cs
        | none => none
    else
      match newline? (c :: cs) with
      | some rest => multiLine quote escapes fuel ('\n' :: acc) rest
      | none => if isCommentChar c then multiLine quote escapes fuel (c :: acc) cs else none

/-- The text of a string over several lines without the line end right behind its opening marks. -/
def afterOpening (cs : List Char) : List Char := (newline? cs).getD cs

/-- A string of any of the four forms. -/
def string? (cs : List Char) : Option (String × List Char) :=
  match cs with
  | '\x22' :: '\x22' :: '\x22' :: cs =>
    multiLine '\x22' true (cs.length + 1) [] (afterOpening cs)
  | '\x27' :: '\x27' :: '\x27' :: cs =>
    multiLine '\x27' false (cs.length + 1) [] (afterOpening cs)
  | '\x22' :: cs => basicString (cs.length + 1) [] cs
  | '\x27' :: cs => literalString cs
  | _ => none

/-! ## Keys -/

/-- A character of a key without quotation marks. -/
def isBareKeyChar (c : Char) : Bool := c.isAlphanum || c == '_' || c == '-'

/-- One part of a key. -/
def keyPart? (cs : List Char) : Option (String × List Char) :=
  match cs with
  | '\x22' :: cs => basicString (cs.length + 1) [] cs
  | '\x27' :: cs => literalString cs
  | _ =>
    match cs.takeWhile isBareKeyChar with
    | [] => none
    | part => some (String.ofList part, cs.drop part.length)

/-- A key of parts with dots between them, and blanks around each. -/
def key? : Nat → List Char → Option (List String × List Char)
  | 0, _ => none
  | fuel + 1, cs => do
    let (part, cs) ← keyPart? (skipBlanks cs)
    match skipBlanks cs with
    | '.' :: cs =>
      let (parts, cs) ← key? fuel cs
      return (part :: parts, cs)
    | cs => return ([part], cs)

end Upkeep.Toml
