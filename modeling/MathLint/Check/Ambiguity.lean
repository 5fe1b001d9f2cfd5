import MathLint.Check.Context
import MathLint.Check.Shape

/-!
# Checks for ambiguous notation

Each check here looks at one node and reports markup that looks right but can be read in more than
one way: split numbers and names, scripts on a lone fence, missing invisible operators, and negative
space.
-/

namespace MathLint.Ambiguity

open Shape

variable (c : Context) (n : Node)

/-! ## Tokens that belong together -/

/-- Whether three nodes are a grouped number that is split at its comma. -/
def isSplitNumber (head comma tail : Node) : Bool :=
  head.tag == "mn" && tail.tag == "mn" && textIs comma "mo" [","] && isHeadGroup head.trimmed &&
    isTailGroup tail.trimmed

/-- The first three nodes in a row that are a split number; gives its first and its last node. -/
def splitNumber? : List Node → Option (Node × Node)
  | head :: comma :: tail :: rest =>
    if isSplitNumber head comma tail then some (head, tail)
    else splitNumber? (comma :: tail :: rest)
  | _ => none

/-- Reports the first number among the children that is split at its comma. -/
def splitNumber : List Finding :=
  (splitNumber? n.children).toList.map fun (head, tail) =>
    Diagnostic.splitNumber.finding .warn
      (s!"\"{head.trimmed},{tail.trimmed}\" is split across <mn>, <mo>, <mn>. " ++
        "Write a grouped number as a single <mn>.")

/-- Reports scripts on a closing fence alone. -/
def scriptBase : List Finding :=
  if scriptTags.contains n.tag then
    match n.firstChild? with
    | some base =>
      if base.tag == "mo" && base.children.isEmpty && closingFences.contains base.trimmed then
        [Diagnostic.scriptBase.finding .warn
          (s!"<{n.tag}> has a lone closing fence \"{base.trimmed}\" as its base. " ++
            "Wrap the whole fenced group in an <mrow> so the script applies to it.")]
      else []
    | none => []
  else []

/-- Short words that are prose and no product of variables. -/
def shortWords : List String := ["if", "and", "or", "for", "the", "is", "of", "to", "let", "as"]

/-- Whether letters that spell no function name are prose. -/
def isProse (word : String) : Bool := 4 ≤ word.length || shortWords.contains word

/-- The report on a function name that single letters spell. -/
def splitName (name : String) : Finding :=
  let letters := ", ".intercalate (name.toList.map String.singleton)
  let spelled := s!"Single-letter identifiers {letters} spell \"{name}\". Use one <mi>{name}</mi> "
  if FunctionName.commands.contains name then
    Diagnostic.splitCommandName.finding .warn (spelled ++ s!"(LaTeX \\{name}).")
  else
    Diagnostic.splitOperatorName.finding .warn
      (spelled ++ s!"(LaTeX \\operatorname\x7b{name}\x7d).")

/-- Reports the function names or the prose that a word of single letters spells. -/
def spelledWord (word : String) : List Finding :=
  let names := FunctionName.find word
  names.map splitName ++
  if names.isEmpty && isProse word then
    [Diagnostic.plainLanguage.finding .warn
      (s!"Identifiers spell the word \"{word}\". Put prose in <mtext> " ++
        "instead of one <mi> per letter.")]
  else []

/-- Reports words that runs of single letters spell. -/
def functionNames : List Finding :=
  ((runs isSingleLower n.children).filter fun run => 2 ≤ run.length).flatMap fun run =>
    spelledWord (String.join (run.map Node.trimmed))

/-! ## Functions and large operators -/

/-- The node that an invisible application has to follow, for a function name. A name in a script is
a label and is applied to nothing. -/
def applied? : Option Node :=
  match n.parent? with
  | some p =>
    if scriptTags.contains p.tag then
      if n.index == 0 then some p else none
    else some n
  | none => some n

/-- Reports a function name without an invisible application behind it. -/
def functionApplication : List Finding :=
  if isFunctionName n then
    match applied? n with
    | some target =>
      if target.nextSibling?.any fun m => textIs m "mo" [Shape.functionApplication] then []
      else
        [Diagnostic.missingApplication.finding .warn
          (s!"<mi>{n.trimmed}</mi> is not followed by U+2061 FUNCTION APPLICATION. " ++
            "Add <mo>&#x2061;</mo> so the argument is read as applied to the function.")]
    | none => []
  else []

/-- Whether a node is the base of the scripts around it. -/
def isBase : Bool := n.parent?.any fun p => scriptTags.contains p.tag && n.index == 0

/-- Reports a large operator that several ungrouped siblings follow. -/
def operand : List Finding :=
  let following := n.followingSiblings
  if isLargeOperator n && !isBase n && 2 ≤ following.length then
    match following.find? fun m => !textIs m "mo" invisibleOperators with
    | some m =>
      if m.tag == "mrow" then []
      else
        [Diagnostic.ambiguousOperand.finding .warn
          ("A large operator is followed by several ungrouped siblings. " ++
            "Wrap its operand in an <mrow> to make the scope explicit.")]
    | none => []
  else []

/-! ## Annotations -/

/-- Whether a node is an annotation in markup that is not empty. -/
def isPayload (m : Node) : Bool :=
  m.tag == "annotation-xml" && (!m.children.isEmpty || !m.trimmed.isEmpty)

/-- Whether a node is an annotation. -/
def isAnnotation (m : Node) : Bool := m.tag == "annotation" || m.tag == "annotation-xml"

/-- Reports annotations in markup, and `semantics` without annotations. -/
def semantics : List Finding :=
  if n.tag == "semantics" then
    (if n.children.any isPayload then
      [Diagnostic.annotationFallback.finding .warn
        ("<semantics> carries an <annotation-xml> payload. Assistive technology support for " ++
          "this fallback pattern is inconsistent; do not rely on it for meaning.")]
    else []) ++
    if c.profile.semanticsHints && !n.descendants.any isAnnotation then
      [Diagnostic.bareSemantics.finding .info
        ("<semantics> is present without annotation payload; verify intent of " ++
          "using semantics wrapper.")]
    else []
  else []

/-! ## Space -/

/-- Whether an attribute of a node is a negative length. -/
def isNegative (m : Node) (name : String) : Bool :=
  match m.attribute? name with
  | some value =>
    let value := Text.lower (Text.trim value)
    Text.beginsWith "-" value || Text.beginsWith "negative" value
  | none => false

/-- Whether a padded node overlaps its content. -/
def overlaps : Bool :=
  (["width", "lspace", "voffset", "height", "depth"].any (isNegative n)) ||
    (n.children.any fun m => m.tag == "mspace" && isNegative m "width") &&
      n.children.any fun m => ["mi", "mo", "mn", "mtext"].contains m.tag && !m.trimmed.isEmpty

/-- Reports negative space. -/
def negativeSpace : List Finding :=
  if n.tag == "mspace" && isNegative n "width" then
    let width := Text.trim ((n.attribute? "width").getD "")
    [Diagnostic.negativeSpace.finding .warn
      (s!"<mspace width=\"{width}\"> pulls content backwards and often hides " ++
        "overlapping glyphs from assistive technology.")]
  else if n.tag == "mpadded" && overlaps n then
    [Diagnostic.overstrike.finding .warn
      ("<mpadded> uses negative spacing to overlap content. If this builds a composite symbol, " ++
        "use the corresponding Unicode character instead.")]
  else []

/-! ## Invisible operators -/

/-- Whether neighbours are a number and a fraction. -/
def isMixedNumber (left right : Node) : Bool := left.tag == "mn" && right.tag == "mfrac"

/-- Whether neighbours may be factors of a product. -/
def isProduct (words : List Nat) (left right : Node) : Bool :=
  operandTags.contains left.tag && operandTags.contains right.tag && !isMixedNumber left right &&
    !(words.contains left.index && words.contains right.index) && !isFunctionHead left &&
    !isLargeOperator left

/-- The report on neighbours that may be factors of a product. -/
def missingTimes (left right : Node) : Finding :=
  Diagnostic.missingTimes.finding .info
    (s!"<{left.tag}> is directly followed by <{right.tag}>. If this is multiplication, " ++
      "insert <mo>&#x2062;</mo> (INVISIBLE TIMES).")

/-- Reports neighbours in a row that may be factors of a product. -/
def times : List Finding :=
  if isRow n then
    let words := wordIndices n.children
    let products := (neighbours n.children).filter fun (left, right) => isProduct words left right
    products.map fun (left, right) => missingTimes left right
  else []

/-- Whether a node is an identifier or a number of one character. -/
def isShortToken (m : Node) : Bool := (m.tag == "mi" || m.tag == "mn") && m.trimmed.length == 1

/-- Reports indices without a separator. -/
def separator : List Finding :=
  if n.tag == "mrow" && isIndexLike n && !(n.children.any fun m => textIs m "mo" commaOperators) &&
      (neighbours n.children).any fun (a, b) => isShortToken a && isShortToken b then
    [Diagnostic.missingSeparator.finding .warn
      ("An index contains adjacent single-character tokens without a separator. " ++
        "Insert <mo>&#x2063;</mo> (INVISIBLE SEPARATOR) between indices such as i and j.")]
  else []

/-- The report on a number and a fraction that are neighbours. -/
def missingPlus (number : Node) : Finding :=
  Diagnostic.missingPlus.finding .warn
    (s!"<mn>{number.trimmed}</mn> directly followed by <mfrac> reads as a mixed number. " ++
      "Insert <mo>&#x2064;</mo> (INVISIBLE PLUS) between them.")

/-- Reports mixed numbers without a plus sign. -/
def plus : List Finding :=
  if isRow n then
    let mixed := (neighbours n.children).filter fun (left, right) => isMixedNumber left right
    mixed.map fun (left, _) => missingPlus left
  else []

/-! ## Hints about intent -/

/-- Whether a token of several characters leaves its meaning open. -/
def isUnclearToken : Bool :=
  (n.tag == "mi" || n.tag == "mn") && !n.hasAttribute "intent" && 1 < n.trimmed.length &&
    !(n.tag == "mn" && isNumber n.trimmed)

/-- Hints at markup whose meaning an intent could make clear. -/
def hints : List Finding :=
  if !c.profile.semanticsHints then []
  else if n.tag == "mrow" && 5 < n.children.length && !n.hasAttribute "intent" then
    [Diagnostic.largeGroup.finding .info
      "Large <mrow> group has no intent. Consider intent for disambiguation."]
  else if isUnclearToken n then
    [Diagnostic.longToken.finding .info
      s!"<{n.tag}> with multi-character token may need explicit intent depending on meaning."]
  else []

end MathLint.Ambiguity
