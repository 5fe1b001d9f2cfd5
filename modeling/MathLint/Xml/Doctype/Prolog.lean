import MathLint.Xml.Declaration
import MathLint.Xml.Doctype.Basic
import MathLint.Xml.Doctype.Token

/-!
# What stands before the root

The tokens before the root follow a grammar, given as a machine: a `Prolog` is what may come next,
and `Prolog.next?` says what may come after a token. `Doctype.heed` gives what a token says about
the document.

* `Doctype.read`: reads all that stands before the root.
-/

namespace MathLint.Xml

/-- The declared entity: one for references in the document, or one for declarations only. -/
inductive Subject where
  | general (name : List Char)
  | parameter

/-- What may come next before the root. White space may come everywhere. -/
inductive Prolog where
  /-- The XML declaration, or what may follow it. -/
  | opening
  /-- The document type declaration or the root. -/
  | beforeDoctype
  /-- The root. -/
  | afterDoctype
  | doctypeName
  /-- An identifier of outside declarations, the declarations in brackets, or the end. -/
  | doctypeBody
  | doctypePublic
  | doctypeSystem
  | doctypeBrackets
  | doctypeEnd
  /-- A declaration in brackets, or their end. -/
  | subset
  | entityName
  | parameterName
  | entityValue (s : Subject)
  | entityPublic (s : Subject)
  | entitySystem (s : Subject)
  | entityEnd (s : Subject)
  | entityData (name : List Char)
  | notationName
  | notationId
  | notationPublic
  | notationSystem
  | notationEnd
  | attributesOf
  | attributeName (element : List Char)
  | attributeType (element name : List Char)
  /-- A word of an enumeration. -/
  | choice (element name : List Char)
  | choiceNext (element name : List Char)
  | notations (element name : List Char)
  | notationChoice (element name : List Char)
  | notationNext (element name : List Char)
  | attributeDefault (element name : List Char) (plain : Bool)
  | attributeFixed (element name : List Char) (plain : Bool)
  | elementName
  | elementModel
  /-- What follows the first parenthesis of a content model. -/
  | modelStart
  | mixedNext
  | mixedName
  | mixedMore
  /-- An item of the innermost group. For every open group, the connective that it uses, once it is
  known. -/
  | item (groups : List (Option Token))
  | itemNext (groups : List (Option Token))
  /-- The end of a declaration in brackets. -/
  | declarationEnd

namespace Prolog

/-- The types of attributes other than plain text and enumerations. -/
def attributeTypes : List String :=
  ["ID", "IDREF", "IDREFS", "ENTITY", "ENTITIES", "NMTOKEN", "NMTOKENS"]

/-- The declaration in brackets that a keyword opens. -/
def ofKeyword? (word : List Char) : Option Prolog :=
  match String.ofList word with
  | "ENTITY" => some entityName
  | "ATTLIST" => some attributesOf
  | "ELEMENT" => some elementName
  | "NOTATION" => some notationName
  | _ => none

/-- What may come after an item of a group that a connective follows. A group uses one connective
only. -/
def afterConnective (t : Token) : List (Option Token) → Option Prolog
  | [] => none
  | g :: gs => if g.all (· == t) then some (item (some t :: gs)) else none

/-- What may come after the end of a group. -/
def afterGroup : List (Option Token) → Prolog
  | _ :: g :: gs => itemNext (g :: gs)
  | _ => declarationEnd

/-- What may come after a token that is not white space, if the token may come. -/
def next? : Prolog → Token → Option Prolog
  | opening, .declaration _ _ => some beforeDoctype
  | opening, .remark | beforeDoctype, .remark => some beforeDoctype
  | opening, .declare word | beforeDoctype, .declare word =>
    if word = "DOCTYPE".toList then some doctypeName else none
  | afterDoctype, .remark => some afterDoctype
  | doctypeName, .name _ | doctypeName, .qualified _ => some doctypeBody
  | doctypeBody, .openBracket | doctypeBrackets, .openBracket => some subset
  | doctypeBody, .close | doctypeBrackets, .close | doctypeEnd, .close => some afterDoctype
  | doctypeBody, .name word =>
    match String.ofList word with
    | "SYSTEM" => some doctypeSystem
    | "PUBLIC" => some doctypePublic
    | _ => none
  | doctypePublic, .literal _ _ => some doctypeSystem
  | doctypeSystem, .literal _ _ => some doctypeBrackets
  | subset, .declare word => ofKeyword? word
  | subset, .remark | subset, .parameter => some subset
  | subset, .closeBracket => some doctypeEnd
  | declarationEnd, .close => some subset
  | entityName, .percent => some parameterName
  | entityName, .name name => some (entityValue (.general name))
  | parameterName, .name _ => some (entityValue .parameter)
  | entityValue s, .name word =>
    match String.ofList word with
    | "SYSTEM" => some (entitySystem s)
    | "PUBLIC" => some (entityPublic s)
    | _ => none
  | entityValue _, .literal _ _ => some declarationEnd
  | entityPublic s, .literal _ _ => some (entitySystem s)
  | entitySystem s, .literal _ _ => some (entityEnd s)
  | entityEnd _, .close => some subset
  | entityEnd (.general name), .name word =>
    if word = "NDATA".toList then some (entityData name) else none
  | entityData _, .name _ => some declarationEnd
  | notationName, .name _ => some notationId
  | notationId, .name word =>
    match String.ofList word with
    | "SYSTEM" => some notationSystem
    | "PUBLIC" => some notationPublic
    | _ => none
  | notationPublic, .literal _ _ => some notationEnd
  | notationSystem, .literal _ _ | notationEnd, .literal _ _ => some declarationEnd
  | notationEnd, .close => some subset
  | attributesOf, .name e | attributesOf, .qualified e => some (attributeName e)
  | attributeName _, .close => some subset
  | attributeName e, .name a | attributeName e, .qualified a => some (attributeType e a)
  | attributeType e a, .name word =>
    let word := String.ofList word
    if word = "CDATA" then some (attributeDefault e a true)
    else if word = "NOTATION" then some (notations e a)
    else if attributeTypes.contains word then some (attributeDefault e a false)
    else none
  | attributeType e a, .openGroup => some (choice e a)
  | choice e a, .name _ | choice e a, .qualified _ | choice e a, .word => some (choiceNext e a)
  | choiceNext e a, .bar => some (choice e a)
  | choiceNext e a, .closeGroup | notationNext e a, .closeGroup => some (attributeDefault e a false)
  | notations e a, .openGroup => some (notationChoice e a)
  | notationChoice e a, .name _ => some (notationNext e a)
  | notationNext e a, .bar => some (notationChoice e a)
  | attributeDefault e a plain, .keyword word =>
    match String.ofList word with
    | "IMPLIED" | "REQUIRED" => some (attributeName e)
    | "FIXED" => some (attributeFixed e a plain)
    | _ => none
  | attributeDefault e _ _, .literal _ _ | attributeFixed e _ _, .literal _ _ =>
    some (attributeName e)
  | elementName, .name _ | elementName, .qualified _ => some elementModel
  | elementModel, .name word =>
    if word = "EMPTY".toList || word = "ANY".toList then some declarationEnd else none
  | elementModel, .openGroup => some modelStart
  | modelStart, .keyword word => if word = "PCDATA".toList then some mixedNext else none
  | modelStart, .openGroup => some (item [none, none])
  | modelStart, .name _ | modelStart, .qualified _ | modelStart, .repeated => some (itemNext [none])
  | mixedNext, .closeGroup => some declarationEnd
  | mixedNext, .closeRepeated sign | mixedMore, .closeRepeated sign =>
    if sign = '*' then some declarationEnd else none
  | mixedNext, .bar | mixedMore, .bar => some mixedName
  | mixedName, .name _ | mixedName, .qualified _ => some mixedMore
  | item groups, .openGroup => some (item (none :: groups))
  | item groups, .name _ | item groups, .qualified _ | item groups, .repeated =>
    some (itemNext groups)
  | itemNext groups, .closeGroup | itemNext groups, .closeRepeated _ => some (afterGroup groups)
  | itemNext groups, .comma => afterConnective .comma groups
  | itemNext groups, .bar => afterConnective .bar groups
  | _, _ => none

end Prolog

/-! ## What tokens say -/

/-- The cause of an error at a token that may not come. -/
def Token.refusal : Token → Cause
  | .parameter => .parameterReference
  | .declaration _ _ => .lateDeclaration
  | _ => .outOfPlace

/-- A character that an identifier of outside declarations may hold. -/
def isPublicChar (c : Char) : Bool :=
  c.isAlphanum || "-'()+,./=?;!*#@$_%: \r\n".toList.contains c

/-- The text of an entity from its declaration, which `after` follows: references to characters are
replaced, and those to entities kept. Behind an ampersand all is skipped up to the semicolon, for a
reference that is replaced. -/
def entityText (form : Form) (after : List Char) (skipping : Bool) :
    List Char → Except Error (List Char)
  | [] => .ok []
  | '\r' :: '\n' :: cs => do
    return '\n' :: (← entityText form after false cs)
  | c :: cs =>
    let invalid (start : List Char) : Stop → Error
      | .bad here => ⟨.invalidToken, here ++ after⟩
      | _ => ⟨.invalidToken, start ++ after⟩
    if skipping then entityText form after (c != ';') cs
    else if c == '%' then
      match Token.percentRest form cs with
      | .ok (.parameter, _) => .error ⟨.parameterReference, c :: cs ++ after⟩
      | .ok _ => .error ⟨.invalidToken, cs ++ after⟩
      | .error s => .error (invalid (c :: cs) s)
    else if c == '&' then
      match Scan.reference form cs with
      | .error s => .error (invalid (c :: cs) s)
      | .ok (.number n, _) =>
        match Scan.character? n with
        | some d => do
          return d :: (← entityText form after true cs)
        | none => .error ⟨.characterNumber, c :: cs ++ after⟩
      | .ok (.entity _, _) => do
        return c :: (← entityText form after false cs)
    else do
      return (if c == '\r' then '\n' else c) :: (← entityText form after false cs)

namespace Doctype

/-- Checks an identifier of outside declarations, which `after` follows. -/
def checkPublic (text after : List Char) : Except Error Unit :=
  if text.all isPublicChar then .ok () else .error ⟨.publicId, text.dropWhile isPublicChar ++ after⟩

/-- Checks the end of a value, from its closing quote on. If the quote ends the source, the value
takes in part of a character that stands behind it. -/
def checkValueEnd (d : Doctype) (after : List Char) : Except Error Unit :=
  if d.remainder && after.length ≤ 1 then .error ⟨.invalidToken, after⟩ else .ok ()

/-- The document type after the default value of an attribute. -/
def withDefault (d : Doctype) (element name : List Char) (plain : Bool)
    (here text after : List Char) : Except Error Doctype :=
  if !d.heeded then .ok d
  else
    match d.value [] plain text d.allowance with
    | .ok (value, allowance) => do
      d.checkValueEnd after
      return { d with allowance }.withAttribute ⟨element, name, plain, some value⟩
    | .error e => .error (e.error here after)

/-- What is known of the document after a token at `here` that may come. -/
def heed (d : Doctype) (here : List Char) : Prolog → Token → Except Error Doctype
  | .opening, .declaration body after =>
    match Declaration.standalone body with
    | .ok standalone => .ok { d with standalone }
    | .error bad => .error ⟨.declaration, bad ++ after⟩
  | .doctypePublic, .literal text after => do
    checkPublic text after
    return { d with partly := true }
  | .doctypeSystem, .literal _ _ => .ok { d with partly := true }
  | .subset, .parameter => .ok { d with partly := true, heeded := d.standalone }
  | .entityPublic _, .literal text after | .notationPublic, .literal text after => do
    checkPublic text after
    return d
  | .entityValue s, .literal text after =>
    if !d.heeded then .ok d
    else do
      let value ← entityText d.form after false text
      d.checkValueEnd after
      match s with
      | .general name => return d.withEntity name (.inside value)
      | .parameter => return d
  | .entityEnd (.general name), .close => .ok (d.withEntity name .outside)
  | .entityData name, .name _ => .ok (d.withEntity name .unparsed)
  | .attributeDefault e a plain, .keyword word =>
    .ok (if word = "FIXED".toList then d else d.withAttribute ⟨e, a, plain, none⟩)
  | .attributeDefault e a plain, .literal text after
  | .attributeFixed e a plain, .literal text after =>
    d.withDefault e a plain here text after
  | _, _ => .ok d

/-- Reads what stands before the root, no more than `limit` tokens, and gives the source from the
root on. -/
def readProlog : (limit : Nat) → Doctype → Prolog → List Char → Except Error (Read Doctype)
  | 0, _, _, cs => .error ⟨.noElement, cs⟩
  | _ + 1, d, _, [] => .error ⟨d.endCause, []⟩
  | limit + 1, d, p, cs =>
    match Token.scan d.form cs, p with
    | .error s, _ => .error (s.error cs)
    | .ok (.space, rest), .opening => readProlog limit d .beforeDoctype rest
    | .ok (.space, rest), p => readProlog limit d p rest
    | .ok (.root, rest), .opening | .ok (.root, rest), .beforeDoctype
    | .ok (.root, rest), .afterDoctype =>
      .ok (d, rest)
    | .ok (t, rest), p =>
      let t := if d.remainder && rest.isEmpty then t.extended else t
      match p.next? t with
      | none => .error ⟨t.refusal, cs⟩
      | some q => do
        let d ← d.heed cs p t
        if rest.isEmpty && t.reachesEnd then .error ⟨.noElement, []⟩
        else readProlog limit d q rest

/-- What is known of a document from the form and the size of its source. -/
def ofSource (source : String) : Doctype where
  form := .ofSource source
  remainder := Characters.endsInPair source
  allowance := allowanceFor source.utf8ByteSize

/-- What a document says before its root, and the source from the root on. -/
def read (d : Doctype) (cs : List Char) : Except Error (Read Doctype) :=
  readProlog (cs.length + 1) d .opening cs

end Doctype

end MathLint.Xml
