import MathLint.Xml.NameChar

/-!
# Reading tokens

A scanner reads a token at the front of a source and gives it with the source behind it, or a
`Stop`: the source is cut off inside the token, or a character cannot stand where it is. The form of
the source says which characters names have.

This module has the scanners that content and document type declarations share: names, references,
comments and processing instructions.
-/

namespace MathLint.Xml

/-- Why a token cannot be read. -/
inductive Stop where
  /-- The source ends inside the token. -/
  | cut
  /-- The source ends inside a character of the token. -/
  | half
  /-- The source from a character on that cannot stand there. -/
  | bad (here : List Char)

/-- Why a token cannot go on with what comes next. -/
def Stop.before : List Char → Stop
  | [] => cut
  | c :: cs => if c == Characters.half then half else bad (c :: cs)

/-- What a scanner read, and the source behind it. -/
abbrev Read (α : Type) := α × List Char

namespace Scan

/-- Reads a given character. -/
def exactly (c : Char) : List Char → Except Stop (Read Unit)
  | [] => .error .cut
  | d :: cs => if d == c then .ok ((), cs) else .error (.bad (d :: cs))

/-- Reads the characters of a class. The source may not end inside a character behind them. -/
def run (inside : Char → Bool) (cs : List Char) : Except Stop (Read (List Char)) :=
  let rest := cs.dropWhile inside
  if rest.head? == some Characters.half then .error .half else .ok (cs.takeWhile inside, rest)

/-- Reads a name without a colon. -/
def name (form : Form) : List Char → Except Stop (Read (List Char))
  | [] => .error .cut
  | c :: cs =>
    if form.isNameStart c then do
      let (text, rest) ← run form.isNameChar cs
      return (c :: text, rest)
    else .error (.before (c :: cs))

/-- Reads a name with or without a namespace prefix and a colon. -/
def qualifiedName (form : Form) (cs : List Char) : Except Stop (Read (List Char)) := do
  let (first, rest) ← name form cs
  match rest with
  | ':' :: after =>
    let (second, rest) ← name form after
    return (first ++ ':' :: second, rest)
  | _ => return (first, rest)

/-! ## References -/

/-- A reference to an entity, or to a character by its number. -/
inductive Reference where
  | entity (name : List Char)
  | number (n : Nat)

/-- The value of a digit in any base up to sixteen. -/
def digitValue (c : Char) : Nat :=
  if c.isDigit then c.toNat - 0x30 else if 'a' ≤ c then c.toNat - 0x57 else c.toNat - 0x37

/-- Reads digits of a base and the semicolon behind them. -/
def number (base : Nat) (isDigit : Char → Bool) : List Char → Except Stop (Read Reference)
  | [] => .error .cut
  | c :: cs =>
    if isDigit c then do
      let ((), rest) ← exactly ';' (cs.dropWhile isDigit)
      let digits := c :: cs.takeWhile isDigit
      return (.number (digits.foldl (fun n d => base * n + digitValue d) 0), rest)
    else .error (.bad (c :: cs))

/-- A hexadecimal digit. -/
def isHexDigit (c : Char) : Bool := c.isDigit || ('a' ≤ c && c ≤ 'f') || ('A' ≤ c && c ≤ 'F')

/-- Reads a reference behind its ampersand. -/
def reference (form : Form) : List Char → Except Stop (Read Reference)
  | '#' :: 'x' :: cs => number 16 isHexDigit cs
  | '#' :: cs => number 10 Char.isDigit cs
  | cs => do
    let (n, rest) ← name form cs
    let ((), rest) ← exactly ';' rest
    return (.entity n, rest)

/-- The character of a number, if it is one that a document may hold. -/
def character? (n : Nat) : Option Char :=
  if h : n.isValidChar then
    let c := Char.ofNatAux n h
    if isAllowed c then some c else none
  else none

/-- The character of an entity that every document has. -/
def predefined? (name : List Char) : Option Char :=
  [("lt", '<'), ("gt", '>'), ("amp", '&'), ("quot", '"'), ("apos", '\'')].lookup
    (String.ofList name)

/-! ## Comments and processing instructions -/

/-- Reads a comment behind its first two hyphens. -/
def commentBody : List Char → Except Stop (Read (List Char))
  | [] => .error .cut
  | '-' :: '-' :: cs => do
    let ((), rest) ← exactly '>' cs
    return ([], rest)
  | c :: cs =>
    if isAllowed c then do
      let (body, rest) ← commentBody cs
      return (c :: body, rest)
    else .error (.before (c :: cs))

/-- Reads a comment behind its first hyphen. -/
def comment (cs : List Char) : Except Stop (Read (List Char)) := do
  let ((), rest) ← exactly '-' cs
  commentBody rest

/-- Reads the data of a processing instruction. -/
def instructionBody : List Char → Except Stop (Read (List Char))
  | [] => .error .cut
  | '?' :: '>' :: cs => .ok ([], cs)
  | c :: cs =>
    if isAllowed c then do
      let (body, rest) ← instructionBody cs
      return (c :: body, rest)
    else .error (.before (c :: cs))

/-- A processing instruction: its target and all that follows it. -/
structure Instruction where
  target : List Char
  data : List Char

/-- The target of the XML declaration. -/
def xmlTarget : List Char := "xml".toList

/-- Whether an instruction is the XML declaration. -/
def Instruction.isDeclaration (i : Instruction) : Bool := i.target == xmlTarget

/-- The text of an instruction: the target and the data. -/
def Instruction.text (i : Instruction) : List Char :=
  let data := i.data.dropWhile isSpace
  if data.isEmpty then i.target else i.target ++ ' ' :: data

/-- Reads a processing instruction behind `<?`. A target `xml` is refused if a letter of it is a
capital. -/
def instruction (form : Form) (cs : List Char) : Except Stop (Read Instruction) := do
  let (target, rest) ← name form cs
  match rest with
  | [] => .error .cut
  | c :: after =>
    if (!isSpace c && c != '?') ||
        (target != xmlTarget && target.map Char.toLower == xmlTarget) then
      .error (.bad rest)
    else if c == '?' then
      let ((), rest) ← exactly '>' after
      return (⟨target, []⟩, rest)
    else
      let (data, rest) ← instructionBody after
      return (⟨target, c :: data⟩, rest)

end Scan

end MathLint.Xml
