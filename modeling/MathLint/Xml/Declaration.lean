import MathLint.Xml.NameChar

/-!
# The XML declaration

`Declaration.standalone` reads what stands between `<?xml` and `?>`: a version, then an encoding and
an assurance about declarations outside the document, both of which may be missing. It gives the
assurance. A fault is given by the text from there on.
-/

namespace MathLint.Xml.Declaration

/-- A setting in the declaration, with the text from its name and from its value on. -/
structure Setting where
  name : List Char
  value : List Char
  here : List Char
  valueHere : List Char

/-- The characters of values. -/
def isValueChar (c : Char) : Bool := c.isAlphanum || c == '.' || c == '-' || c == '_'

/-- Reads the quoted value of a setting. -/
def settingValue (name here : List Char) : List Char → Except (List Char) (Setting × List Char)
  | [] => .error []
  | quote :: cs =>
    if quote == '"' || quote == '\'' then
      let rest := cs.dropWhile isValueChar
      if rest.head? == some quote then .ok (⟨name, cs.takeWhile isValueChar, here, cs⟩, rest.drop 1)
      else .error rest
    else .error (quote :: cs)

/-- Reads a setting, with white space before it; none if there is only white space. -/
def setting : List Char → Except (List Char) (Option (Setting × List Char))
  | [] => .ok none
  | c :: cs => do
    if !isSpace c then .error (c :: cs)
    else
      let here := cs.dropWhile isSpace
      if here.isEmpty then return none
      let inName (d : Char) := d.toNat < 0x80 && d != '=' && !isSpace d
      match (here.dropWhile inName).dropWhile isSpace with
      | '=' :: rest =>
        if (here.takeWhile inName).isEmpty then .error here
        else return some (← settingValue (here.takeWhile inName) here (rest.dropWhile isSpace))
      | rest => .error rest

/-- Reads the assurance that nothing outside the document matters. -/
def assurance (s : Setting) (rest : List Char) : Except (List Char) Bool :=
  if s.name != "standalone".toList then .error s.here
  else if s.value != "yes".toList && s.value != "no".toList then .error s.valueHere
  else if !rest.all isSpace then .error (rest.dropWhile isSpace)
  else .ok (s.value == "yes".toList)

/-- The assurance of a declaration that nothing outside the document matters. -/
def standalone (body : List Char) : Except (List Char) Bool := do
  match ← setting body with
  | none => .error body
  | some (version, rest) =>
    if version.name != "version".toList then .error version.here
    else
      match ← setting rest with
      | none => return false
      | some (s, rest) =>
        if s.name != "encoding".toList then assurance s rest
        else if !s.value.head?.any Char.isAlpha then .error s.valueHere
        else
          match ← setting rest with
          | none => return false
          | some (s, rest) => assurance s rest

end MathLint.Xml.Declaration
