import MathLint.Xml.Content
import MathLint.Xml.Doctype.Basic

/-!
# Namespaces in scope

A `Scope` tells which prefixes stand for which namespaces. `Scope.enter` reads a start tag: it adds
the prefixes that the tag declares, gives the attributes their values and defaults, and puts all
names into their namespaces.
-/

namespace MathLint.Xml

/-- Prefixes and the namespaces that they stand for, the innermost declaration first. The empty
prefix is that of elements without one; the empty namespace is none. -/
abbrev Scope := List (List Char × List Char)

namespace Scope

/-- The scope outside the root. -/
def outermost : Scope := [("xml".toList, xmlNamespace.toList)]

/-- The namespace of namespace declarations. -/
def xmlnsNamespace : List Char := "http://www.w3.org/2000/xmlns/".toList

/-- The namespace of a prefix. -/
def namespace? (scope : Scope) (short : List Char) : Option (List Char) :=
  (scope.lookup short).filter fun uri => !uri.isEmpty

/-- The scope with a prefix declared. -/
def declare (scope : Scope) (short uri : List Char) : Except Cause Scope :=
  if uri.isEmpty && !short.isEmpty then .error .undeclaredPrefix
  else if short = "xmlns".toList then .error .reservedXmlns
  else if uri.contains '\x7d' then .error .outOfPlace
  else if short = "xml".toList then
    if uri = xmlNamespace.toList then .ok scope else .error .reservedXml
  else if uri = xmlNamespace.toList || uri = xmlnsNamespace then .error .reservedNamespace
  else .ok ((short, uri) :: scope)

/-- The prefix of a written name, if it has one, and the rest of the name. -/
def splitPrefix (written : List Char) : Option (List Char) × List Char :=
  match written.dropWhile (· != ':') with
  | [] => (none, written)
  | _ :: base => (some (written.takeWhile (· != ':')), base)

/-- The prefix that an attribute declares, if it declares one. -/
def declared? (written : List Char) : Option (List Char) :=
  match splitPrefix written with
  | (none, base) => if base = "xmlns".toList then some [] else none
  | (some short, base) => if short = "xmlns".toList then some base else none

/-- The scope and the attributes that a start tag gives so far; the attributes have their names as
written. -/
abbrev Given := Scope × List (List Char × List Char)

/-- The scope and the attributes with one more attribute. -/
def give (g : Given) (name value : List Char) : Except Cause Given :=
  match declared? name with
  | some short => do
    return (← g.1.declare short value, g.2)
  | none => .ok (g.1, g.2 ++ [(name, value)])

/-- The scope and the attributes with those that are written in a tag of an element at `here`. -/
def giveWritten (d : Doctype) (opened : List (List Char)) (element here : List Char)
    (known : List (List Char)) (g : Given) : List WrittenAttribute → Expanding Error Given
  | [] => return g
  | a :: as => do
    if known.contains a.name then throw ⟨.duplicateAttribute, a.here⟩
    else
      let plain := (d.attribute? element a.name).all (·.plain)
      let value ← (d.value opened plain a.value).withError (·.error here a.after)
      match give g a.name value with
      | .error cause => throw ⟨cause, here⟩
      | .ok g => giveWritten d opened element here (a.name :: known) g as

/-- The scope and the attributes with the defaults of those that are not written. -/
def giveDefaults (written : List (List Char)) (g : Given) : List Declared → Except Cause Given
  | [] => .ok g
  | a :: as =>
    match a.value with
    | some value =>
      if written.contains a.name then giveDefaults written g as
      else do
        giveDefaults written (← give g a.name value) as
    | none => giveDefaults written g as

/-- Attributes with their names put into namespaces. -/
def nameAttributes (scope : Scope) (known : List (Name × String)) :
    List (List Char × List Char) → Except Cause (List (Name × String))
  | [] => .ok known
  | (written, value) :: as =>
    match splitPrefix written with
    | (none, base) =>
      nameAttributes scope (known ++ [(⟨"", String.ofList base⟩, String.ofList value)]) as
    | (some short, base) =>
      match scope.namespace? short with
      | none => .error .unboundPrefix
      | some uri =>
        let name : Name := ⟨String.ofList uri, String.ofList base⟩
        if known.any (·.1 == name) then .error .duplicateAttribute
        else nameAttributes scope (known ++ [(name, String.ofList value)]) as

/-- The name of an element put into its namespace. -/
def nameElement (scope : Scope) (written : List Char) : Except Cause Name :=
  match splitPrefix written with
  | (none, base) => .ok ⟨String.ofList ((scope.namespace? []).getD []), String.ofList base⟩
  | (some short, base) =>
    match scope.namespace? short with
    | none => .error .unboundPrefix
    | some uri => .ok ⟨String.ofList uri, String.ofList base⟩

/-- Reads the start tag at `here`, inside the entities `opened`: gives the scope inside the element,
and the element without content. -/
def enter (scope : Scope) (d : Doctype) (opened : List (List Char)) (tag : StartTag)
    (here : List Char) : Expanding Error (Scope × Element) := do
  let g ← giveWritten d opened tag.name here [] (scope, []) tag.attributes
  let named : Except Cause (Scope × Element) := do
    let (scope, attributes) ← giveDefaults (tag.attributes.map (·.name)) g
      (d.attributes.filter (·.element == tag.name))
    let attributes ← nameAttributes scope [] attributes
    let name ← nameElement scope tag.name
    return (scope, ⟨name, attributes, .nil⟩)
  match named with
  | .ok r => return r
  | .error cause => throw ⟨cause, here⟩

end Scope

end MathLint.Xml
