import MathLint.Xml.Scan

/-!
# Tokens before the root

Before the root, and between the tags of a document type declaration, a source is a sequence of the
tokens here. `Token.scan` reads one of them.
-/

namespace MathLint.Xml

/-- A token before the root. -/
inductive Token where
  | space
  | remark
  /-- The XML declaration: what stands inside it, and the source from its end mark on. -/
  | declaration (body after : List Char)
  /-- An opened declaration with its keyword. -/
  | declare (word : List Char)
  /-- An opened conditional section. -/
  | conditional
  | conditionalEnd
  /-- A quoted text, and the source from its closing quote on. -/
  | literal (text after : List Char)
  | name (text : List Char)
  | qualified (text : List Char)
  /-- A word that is no name. -/
  | word
  /-- A name with a sign of repetition. -/
  | repeated
  /-- A keyword behind a number sign. -/
  | keyword (text : List Char)
  | percent
  /-- A reference to a parameter entity. -/
  | parameter
  | comma
  | bar
  | close
  | openBracket
  | closeBracket
  | openGroup
  | closeGroup
  /-- The end of a group with a sign of repetition. -/
  | closeRepeated (sign : Char)
  /-- The start of the root, which is not read. -/
  | root
  deriving DecidableEq, Repr

namespace Token

/-- Reads a quoted text behind its first quote. A token may not follow it directly. -/
def literalBody (quote : Char) : List Char → Except Stop (Read (List Char × List Char))
  | [] => .error .cut
  | c :: cs =>
    if c == quote then
      if cs.head?.all fun d => isSpace d || ['>', '%', '['].contains d then .ok (([], c :: cs), cs)
      else .error (.bad cs)
    else if isAllowed c then do
      let ((text, after), rest) ← literalBody quote cs
      return ((c :: text, after), rest)
    else .error (.before (c :: cs))

/-- Reads the keyword of a declaration, which white space or a reference to a parameter entity
follows. -/
def keywordBody (form : Form) : List Char → Except Stop (Read (List Char))
  | [] => .error .cut
  | c :: cs =>
    if form.isKeywordChar c then do
      let (text, rest) ← keywordBody form cs
      return (c :: text, rest)
    else if isSpace c then .ok ([], c :: cs)
    else if c == '%' then
      match cs with
      | [] => .error .cut
      | d :: _ => if isSpace d || d == '%' then .error (.bad (c :: cs)) else .ok ([], c :: cs)
    else .error (.bad (c :: cs))

/-- Reads what stands behind `<!`. -/
def declarationRest (form : Form) : List Char → Except Stop (Read Token)
  | [] => .error .cut
  | '-' :: cs => do
    let (_, rest) ← Scan.comment cs
    return (remark, rest)
  | '[' :: cs => .ok (conditional, cs)
  | c :: cs =>
    if form.isKeywordChar c then do
      let (text, rest) ← keywordBody form cs
      return (declare (c :: text), rest)
    else .error (.bad (c :: cs))

/-- Reads what stands behind a percent sign. -/
def percentRest (form : Form) : List Char → Except Stop (Read Token)
  | [] => .error .cut
  | c :: cs =>
    if isSpace c || c == '%' then .ok (percent, c :: cs)
    else do
      let (_, rest) ← Scan.name form (c :: cs)
      let ((), rest) ← Scan.exactly ';' rest
      return (parameter, rest)

/-- Reads what stands behind a number sign. -/
def keywordRest (form : Form) (cs : List Char) : Except Stop (Read Token) := do
  let (text, rest) ← Scan.name form cs
  if rest.head?.all fun d => isSpace d || [')', '>', '%', '|'].contains d then
    return (keyword text, rest)
  else .error (.bad rest)

/-- The token of a word. A name may have one colon with a name character behind it; any other word
with a colon is no name. -/
def ofWord (form : Form) (text : List Char) : Token :=
  if !text.head?.any form.isNameStart then word
  else
    match text.dropWhile (· != ':') with
    | [] => name text
    | _ :: base => if base.isEmpty || base.contains ':' then word else qualified text

/-- Reads a word. A sign of repetition may follow a name. -/
def anyWord (form : Form) (cs : List Char) : Except Stop (Read Token) := do
  let (text, rest) ← Scan.run (fun c => form.isNameChar c || c == ':') cs
  let token := ofWord form text
  match rest with
  | [] =>
    if text.head?.any form.isNameStart && text.dropWhile (· != ':') == [':'] then .error .cut
    else return (token, [])
  | c :: after =>
    if text.isEmpty then .error (.bad rest)
    else if isSpace c || ['>', ')', ',', '|', '[', '%'].contains c then return (token, rest)
    else if ['+', '*', '?'].contains c && token != word then return (repeated, after)
    else .error (.bad rest)

/-- Reads what stands behind a closing bracket. -/
def bracketRest : List Char → Except Stop (Read Token)
  | [']'] => .error .cut
  | ']' :: '>' :: cs => .ok (conditionalEnd, cs)
  | cs => .ok (closeBracket, cs)

/-- Reads what stands behind a closing parenthesis. -/
def groupRest : List Char → Except Stop (Read Token)
  | [] => .ok (closeGroup, [])
  | c :: cs =>
    if ['*', '?', '+'].contains c then .ok (closeRepeated c, cs)
    else if isSpace c || ['>', ',', '|', ')'].contains c then .ok (closeGroup, c :: cs)
    else .error (.bad (c :: cs))

/-- The token of a processing instruction, which the source `rest` follows. -/
def ofInstruction (i : Scan.Instruction) (rest : List Char) : Token :=
  if i.isDeclaration then declaration i.data ('?' :: '>' :: rest) else remark

/-- Reads what stands behind a less-than sign. -/
def tagRest (form : Form) : List Char → Except Stop (Read Token)
  | [] => .error .cut
  | '!' :: cs => declarationRest form cs
  | '?' :: cs => do
    let (i, rest) ← Scan.instruction form cs
    return (ofInstruction i rest, rest)
  | c :: cs =>
    if form.opensRoot c then .ok (root, '<' :: c :: cs) else .error (.bad (c :: cs))

/-- Reads the token at the front of a source that is not empty. -/
def scan (form : Form) : List Char → Except Stop (Read Token)
  | [] => .error .cut
  | c :: cs =>
    match c with
    | '<' => tagRest form cs
    | '%' => percentRest form cs
    | '#' => keywordRest form cs
    | ',' => .ok (comma, cs)
    | '|' => .ok (bar, cs)
    | '>' => .ok (close, cs)
    | '[' => .ok (openBracket, cs)
    | ']' => bracketRest cs
    | '(' => .ok (openGroup, cs)
    | ')' => groupRest cs
    | c =>
      if isSpace c then .ok (space, cs.dropWhile isSpace)
      else if c == '"' || c == '\'' then do
        let ((text, after), rest) ← literalBody c cs
        return (literal text after, rest)
      else anyWord form (c :: cs)

/-- Whether a token at the end of a source takes in part of a character that stands behind it. -/
def reachesEnd : Token → Bool
  | literal _ _ | name _ | qualified _ | word | keyword _ | closeBracket | closeGroup => true
  | _ => false

/-- The token with part of a character taken in: a word is no keyword then. -/
def extended : Token → Token
  | name text => name (text ++ [Characters.invalid])
  | keyword text => keyword (text ++ [Characters.invalid])
  | t => t

end Token

end MathLint.Xml
