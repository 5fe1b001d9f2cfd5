import MathLint.Schema.Rule

/-!
# The MathML catalog

The elements of presentation and content markup with their rules, and the attributes with the types
of their values.

* `Catalog.presentation`, `Catalog.content`: the rules of the elements, in catalog order.
* `Catalog.attributes`: the attributes that both versions know.
* `Catalog.intentAttributes`: those that version 4 adds.
-/

namespace MathLint

/-- The supported versions of MathML. -/
inductive Version where
  | mathml3
  | mathml4
  deriving DecidableEq, Repr

namespace Version

/-- Every version. -/
def all : List Version := [mathml3, mathml4]

/-- The name of a version. -/
def name : Version → String
  | mathml3 => "mathml3"
  | mathml4 => "mathml4"

/-- The version of a name. -/
def ofName? (name : String) : Option Version := all.find? (·.name == name)

end Version

/-- The type of an attribute's values. -/
inductive AttributeType where
  | string
  | uri
  | boolean
  | integer
  | signedInteger
  | positiveInteger
  | length
  | lengthOrKeyword (keywords : List String)
  | lengthOrPseudo
  | color
  | enum (values : List String)
  | stringList (values : List String)
  /-- A type without a grammar of its own. -/
  | other (name : String)
  deriving DecidableEq, Repr

namespace AttributeType

/-- The name of a type. -/
def name : AttributeType → String
  | string => "string"
  | uri => "uri"
  | boolean => "boolean"
  | integer => "integer"
  | signedInteger => "integer-or-signed"
  | positiveInteger => "positive-integer"
  | length => "length"
  | lengthOrKeyword _ => "length-or-keyword"
  | lengthOrPseudo => "length-or-pseudo"
  | color => "color"
  | enum _ => "enum"
  | stringList _ => "string-list"
  | other name => name

/-- The words that a type lists. -/
def values? : AttributeType → Option (List String)
  | lengthOrKeyword values | enum values | stringList values => some values
  | _ => none

end AttributeType

/-- What the catalog says of an attribute. -/
structure AttributeDefinition where
  name : String
  type : AttributeType
  specs : List String := []
  deprecated : Bool := false
  /-- For a name that stands for many, how those names begin. -/
  pattern : Option String := none
  deriving DecidableEq, Repr

namespace Catalog

/-! ## Shared lists -/

/-- The tiers of elements that MathML Core has too. -/
def coreTiers : List String := ["mathml-core", "presentation"]

/-- The tiers of elements that only full presentation markup has. -/
def fullTiers : List String := ["presentation"]

/-- The tier of content markup. -/
def contentTiers : List String := ["content"]

/-- The elements that may stand in a row. -/
def flow : List String := [
  "mi", "mn", "mo", "mtext", "mspace", "ms", "mrow", "mfrac", "msqrt", "mroot", "mstyle", "merror",
  "mpadded", "mphantom", "mfenced", "menclose", "msub", "msup", "msubsup", "munder", "mover",
  "munderover", "mmultiscripts", "mtable", "maction", "semantics", "a", "malignmark"]

/-- The elements that may stand in a token. -/
def tokenChildren : List String := ["mglyph", "malignmark"]

/-- The attributes of every element. -/
def universal : List String := [
  "id", "class", "style", "data-*", "href", "autofocus", "tabindex", "nonce", "on*"]

/-- The attributes of layout elements. -/
def layout : List String := universal ++ [
  "dir", "mathcolor", "mathbackground", "mathsize", "displaystyle", "scriptlevel"]

/-- The attributes of token elements. -/
def token : List String := layout ++ ["mathvariant"]

/-- A fixed number of children. -/
def exactly (n : Int) : Option Arity := some ⟨some n, none⟩

/-- A least number of children. -/
def atLeast (n : Int) : Option Arity := some ⟨none, some n⟩

/-! ## Presentation markup -/

/-- The rules of the presentation elements. -/
def presentation : List Rule := [
  { tag := "math", specs := coreTiers, children := flow,
    attributes := token ++ ["display", "alttext", "xmlns"],
    deprecatedAttributes := ["macros", "mode"] },
  { tag := "mi", specs := coreTiers, children := tokenChildren, attributes := token },
  { tag := "mn", specs := coreTiers, children := tokenChildren, attributes := token },
  { tag := "mo", specs := coreTiers, children := tokenChildren,
    attributes := token ++ [
      "form", "fence", "separator", "lspace", "rspace", "stretchy", "symmetric", "maxsize",
      "minsize", "largeop", "movablelimits", "accent"] },
  { tag := "mtext", specs := coreTiers, children := tokenChildren, attributes := token },
  { tag := "mspace", specs := coreTiers, arity := exactly 0,
    attributes := token ++ ["width", "height", "depth"] },
  { tag := "ms", specs := coreTiers, children := tokenChildren,
    attributes := token ++ ["lquote", "rquote"] },
  { tag := "mrow", specs := coreTiers, children := flow, attributes := layout },
  { tag := "mfrac", specs := coreTiers, arity := exactly 2, children := flow,
    attributes := layout ++ ["linethickness", "numalign", "denomalign", "bevelled"],
    childRoles := ["numerator", "denominator"] },
  { tag := "msqrt", specs := coreTiers, children := flow, attributes := layout },
  { tag := "mroot", specs := coreTiers, arity := exactly 2, children := flow, attributes := layout,
    childRoles := ["base", "index"] },
  { tag := "mstyle", specs := coreTiers, children := flow, attributes := token },
  { tag := "merror", specs := coreTiers, children := flow, attributes := layout },
  { tag := "mpadded", specs := coreTiers, children := flow,
    attributes := layout ++ ["width", "height", "depth", "lspace", "voffset"] },
  { tag := "mphantom", specs := coreTiers, children := flow, attributes := layout },
  { tag := "mfenced", specs := fullTiers, children := flow,
    attributes := layout ++ ["open", "close", "separators"], deprecated := true },
  { tag := "menclose", specs := fullTiers, children := flow, attributes := layout ++ ["notation"] },
  { tag := "msub", specs := coreTiers, arity := exactly 2, children := flow, attributes := layout,
    childRoles := ["base", "subscript"] },
  { tag := "msup", specs := coreTiers, arity := exactly 2, children := flow, attributes := layout,
    childRoles := ["base", "superscript"] },
  { tag := "msubsup", specs := coreTiers, arity := exactly 3, children := flow,
    attributes := layout,
    childRoles := ["base", "subscript", "superscript"] },
  { tag := "munder", specs := coreTiers, arity := exactly 2, children := flow,
    attributes := layout ++ ["accentunder"], childRoles := ["base", "underscript"] },
  { tag := "mover", specs := coreTiers, arity := exactly 2, children := flow,
    attributes := layout ++ ["accent"], childRoles := ["base", "overscript"] },
  { tag := "munderover", specs := coreTiers, arity := exactly 3, children := flow,
    attributes := layout ++ ["accent", "accentunder"],
    childRoles := ["base", "underscript", "overscript"] },
  { tag := "mmultiscripts", specs := coreTiers, children := flow ++ ["mprescripts", "none"],
    attributes := layout },
  { tag := "mprescripts", specs := coreTiers, arity := exactly 0, attributes := universal,
    onlyValidIn := ["mmultiscripts"] },
  { tag := "none", specs := coreTiers, arity := exactly 0, attributes := universal,
    onlyValidIn := ["mmultiscripts"] },
  { tag := "mtable", specs := coreTiers, children := ["mtr", "mlabeledtr"],
    attributes := layout ++ ["align", "rowalign", "columnalign"] },
  { tag := "mtr", specs := coreTiers, children := ["mtd"],
    attributes := layout ++ ["rowalign", "columnalign"], onlyValidIn := ["mtable"] },
  { tag := "mlabeledtr", specs := fullTiers, arity := atLeast 1, children := ["mtd"],
    attributes := layout ++ ["rowalign", "columnalign"], onlyValidIn := ["mtable"] },
  { tag := "mtd", specs := coreTiers, children := flow ++ ["maligngroup"],
    attributes := layout ++ ["rowspan", "columnspan", "rowalign", "columnalign"],
    onlyValidIn := ["mtr", "mlabeledtr"] },
  { tag := "maligngroup", specs := fullTiers, arity := exactly 0, attributes := universal,
    onlyValidIn := ["mtd", "mtr"] },
  { tag := "malignmark", specs := fullTiers, arity := exactly 0, attributes := universal },
  { tag := "mglyph", specs := fullTiers, arity := exactly 0,
    attributes := universal ++ ["src", "alt", "width", "height", "valign", "fontfamily", "index"],
    onlyValidIn := ["mi", "mn", "mo", "mtext", "ms"],
    requiredAttributes := [["src", "alt"], ["fontfamily", "index"]],
    deprecatedAttributes := ["fontfamily", "index", "mathvariant", "mathsize"] },
  { tag := "maction", specs := coreTiers, arity := atLeast 1, children := flow,
    attributes := layout ++ ["actiontype", "selection"], requiredAttributes := [["actiontype"]] },
  { tag := "semantics", specs := coreTiers, arity := atLeast 1,
    children := flow ++ ["annotation", "annotation-xml"], attributes := layout },
  { tag := "annotation", specs := coreTiers,
    attributes := universal ++ ["encoding", "cd", "name", "src"], onlyValidIn := ["semantics"] },
  { tag := "annotation-xml", specs := coreTiers, children := [anyChild],
    attributes := universal ++ ["encoding", "cd", "name", "src"], onlyValidIn := ["semantics"] },
  { tag := "a", specs := coreTiers, arity := atLeast 1, children := flow,
    attributes := layout ++ ["href", "target"] }]

/-! ## Content markup -/

/-- The content elements with content of their own. -/
def contentContainers : List Rule := [
  { tag := "ci", specs := contentTiers, children := ["mglyph"],
    attributes := universal ++ ["type"] },
  { tag := "cn", specs := contentTiers, children := ["sep"],
    attributes := universal ++ ["type", "base"] },
  { tag := "csymbol", specs := contentTiers, attributes := universal ++ ["cd", "type"] },
  { tag := "cs", specs := contentTiers, attributes := universal },
  { tag := "cbytes", specs := contentTiers, attributes := universal },
  { tag := "apply", specs := contentTiers, arity := atLeast 1, children := [anyChild],
    attributes := universal },
  { tag := "bind", specs := contentTiers, arity := atLeast 2, children := [anyChild],
    attributes := universal },
  { tag := "share", specs := contentTiers, arity := exactly 0, attributes := universal ++ ["src"],
    requiredAttributes := [["src"]] },
  { tag := "cerror", specs := contentTiers, arity := atLeast 1, children := [anyChild],
    attributes := universal },
  { tag := "bvar", specs := contentTiers, arity := atLeast 1, children := [anyChild],
    attributes := universal,
    onlyValidIn := ["bind", "apply"] },
  { tag := "condition", specs := contentTiers, arity := exactly 1, children := [anyChild],
    attributes := universal },
  { tag := "domainofapplication", specs := contentTiers, arity := exactly 1, children := [anyChild],
    attributes := universal },
  { tag := "degree", specs := contentTiers, arity := exactly 1, children := [anyChild],
    attributes := universal },
  { tag := "momentabout", specs := contentTiers, arity := exactly 1, children := [anyChild],
    attributes := universal },
  { tag := "lowlimit", specs := contentTiers, arity := exactly 1, children := [anyChild],
    attributes := universal },
  { tag := "uplimit", specs := contentTiers, arity := exactly 1, children := [anyChild],
    attributes := universal },
  { tag := "interval", specs := contentTiers, arity := exactly 2, children := [anyChild],
    attributes := universal ++ ["closure"], childRoles := ["start", "end"] },
  { tag := "lambda", specs := contentTiers, arity := atLeast 2, children := [anyChild],
    attributes := universal },
  { tag := "piecewise", specs := contentTiers, arity := atLeast 1,
    children := ["piece", "otherwise"],
    attributes := universal },
  { tag := "piece", specs := contentTiers, arity := exactly 2, children := [anyChild],
    attributes := universal,
    childRoles := ["value", "condition"], onlyValidIn := ["piecewise"] },
  { tag := "otherwise", specs := contentTiers, arity := exactly 1, children := [anyChild],
    attributes := universal, onlyValidIn := ["piecewise"] },
  { tag := "sep", specs := contentTiers, arity := exactly 0, attributes := universal,
    onlyValidIn := ["cn"] },
  { tag := "declare", specs := contentTiers, arity := atLeast 1, children := [anyChild],
    attributes := universal ++ ["type", "scope", "nargs", "occurrence"], deprecated := true }]

/-- The empty elements for operators and constants. -/
def contentSymbols : List String := [
  "quotient", "factorial", "divide", "max", "min", "minus", "plus", "power", "rem", "times", "root",
  "gcd", "lcm", "eq", "neq", "gt", "lt", "geq", "leq", "equivalent", "approx", "factorof", "int",
  "diff", "partialdiff", "divergence", "grad", "curl", "laplacian", "sum", "product", "limit",
  "sin", "cos", "tan", "sec", "csc", "cot", "sinh", "cosh", "tanh", "sech", "csch", "coth",
  "arcsin", "arccos", "arctan", "arcsec", "arccsc", "arccot", "arcsinh", "arccosh", "arctanh",
  "arcsech", "arccsch", "arccoth", "exp", "ln", "log", "abs", "conjugate", "arg", "real",
  "imaginary", "floor", "ceiling", "mean", "sdev", "variance", "median", "mode", "moment",
  "determinant", "transpose", "selector", "vectorproduct", "scalarproduct", "outerproduct", "set",
  "list", "union", "intersect", "in", "notin", "subset", "prsubset", "notsubset", "notprsubset",
  "setdiff", "card", "cartesianproduct", "and", "or", "xor", "not", "implies", "forall", "exists",
  "integers", "reals", "rationals", "naturalnumbers", "complexes", "primes", "exponentiale",
  "imaginaryi", "notanumber", "true", "false", "emptyset", "pi", "eulergamma", "infinity"]

/-- The rules of the content elements. -/
def content : List Rule :=
  contentContainers ++ contentSymbols.map fun tag =>
    { tag, specs := contentTiers, arity := exactly 0, attributes := universal }

/-! ## Attributes -/

/-- The attributes of content markup that presentation markup does not have. -/
def contentAttributes : List AttributeDefinition := [
  { name := "type", type := .string, specs := contentTiers },
  { name := "base", type := .integer, specs := contentTiers },
  { name := "closure", type := .enum ["open", "closed", "open-closed", "closed-open"],
    specs := contentTiers },
  { name := "scope", type := .string, specs := contentTiers, deprecated := true },
  { name := "nargs", type := .integer, specs := contentTiers, deprecated := true },
  { name := "occurrence", type := .string, specs := contentTiers, deprecated := true }]

/-- The values of `mathvariant`. -/
def mathvariants : List String := [
  "normal", "bold", "italic", "bold-italic", "double-struck", "bold-fraktur", "script",
  "bold-script", "fraktur", "sans-serif", "bold-sans-serif", "sans-serif-italic",
  "sans-serif-bold-italic", "monospace", "initial", "tailed", "looped", "stretched"]

/-- The attributes of presentation markup. -/
def presentationAttributes : List AttributeDefinition := [
  { name := "id", type := .string, specs := coreTiers },
  { name := "class", type := .string, specs := coreTiers },
  { name := "style", type := .string, specs := coreTiers },
  { name := "data-*", type := .string, specs := coreTiers, pattern := some "^data-" },
  { name := "href", type := .uri, specs := coreTiers },
  { name := "autofocus", type := .boolean, specs := coreTiers },
  { name := "tabindex", type := .integer, specs := coreTiers },
  { name := "nonce", type := .string, specs := coreTiers },
  { name := "on*", type := .string, specs := coreTiers, pattern := some "^on" },
  { name := "dir", type := .enum ["ltr", "rtl"], specs := coreTiers },
  { name := "mathcolor", type := .color, specs := fullTiers },
  { name := "mathbackground", type := .color, specs := fullTiers },
  { name := "mathsize", type := .lengthOrKeyword ["small", "normal", "big"], specs := fullTiers },
  { name := "mathvariant", type := .enum mathvariants, specs := fullTiers },
  { name := "displaystyle", type := .boolean, specs := coreTiers },
  { name := "scriptlevel", type := .signedInteger, specs := coreTiers },
  { name := "fontfamily", type := .string, specs := fullTiers, deprecated := true },
  { name := "fontweight", type := .enum ["normal", "bold"], specs := fullTiers,
    deprecated := true },
  { name := "fontstyle", type := .enum ["normal", "italic"], specs := fullTiers,
    deprecated := true },
  { name := "fontsize", type := .length, specs := fullTiers, deprecated := true },
  { name := "color", type := .color, specs := fullTiers, deprecated := true },
  { name := "background", type := .color, specs := fullTiers, deprecated := true },
  { name := "display", type := .enum ["block", "inline"], specs := coreTiers },
  { name := "alttext", type := .string, specs := coreTiers },
  { name := "xmlns", type := .string, specs := coreTiers },
  { name := "macros", type := .string, specs := fullTiers, deprecated := true },
  { name := "mode", type := .enum ["display", "inline"], specs := fullTiers, deprecated := true },
  { name := "form", type := .enum ["prefix", "infix", "postfix"], specs := coreTiers },
  { name := "fence", type := .boolean, specs := coreTiers },
  { name := "separator", type := .boolean, specs := coreTiers },
  { name := "lspace", type := .length, specs := coreTiers },
  { name := "rspace", type := .length, specs := coreTiers },
  { name := "stretchy", type := .boolean, specs := coreTiers },
  { name := "symmetric", type := .boolean, specs := coreTiers },
  { name := "maxsize", type := .lengthOrKeyword ["infinity"], specs := coreTiers },
  { name := "minsize", type := .length, specs := coreTiers },
  { name := "largeop", type := .boolean, specs := coreTiers },
  { name := "movablelimits", type := .boolean, specs := coreTiers },
  { name := "accent", type := .boolean, specs := fullTiers },
  { name := "width", type := .length, specs := fullTiers },
  { name := "height", type := .length, specs := fullTiers },
  { name := "depth", type := .length, specs := fullTiers },
  { name := "voffset", type := .lengthOrPseudo, specs := fullTiers },
  { name := "linethickness", type := .lengthOrKeyword ["thin", "medium", "thick"],
    specs := coreTiers },
  { name := "numalign", type := .enum ["left", "center", "right"], specs := fullTiers },
  { name := "denomalign", type := .enum ["left", "center", "right"], specs := fullTiers },
  { name := "bevelled", type := .boolean, specs := fullTiers },
  { name := "lquote", type := .string, specs := fullTiers },
  { name := "rquote", type := .string, specs := fullTiers },
  { name := "open", type := .string, specs := fullTiers },
  { name := "close", type := .string, specs := fullTiers },
  { name := "separators", type := .string, specs := fullTiers },
  { name := "notation",
    type := .stringList [
      "longdiv", "actuarial", "phasorangle", "radical", "box", "roundedbox", "circle", "left",
      "right", "top", "bottom", "updiagonalstrike", "downdiagonalstrike", "verticalstrike",
      "horizontalstrike", "northeastarrow", "madruwb", "text", "updiagonalarrow"],
    specs := fullTiers },
  { name := "accentunder", type := .boolean, specs := fullTiers },
  { name := "align", type := .enum ["top", "bottom", "center", "baseline", "axis"],
    specs := fullTiers },
  { name := "rowalign", type := .stringList ["top", "bottom", "center", "baseline", "axis"],
    specs := fullTiers },
  { name := "columnalign", type := .stringList ["left", "center", "right"], specs := fullTiers },
  { name := "rowspan", type := .positiveInteger, specs := fullTiers },
  { name := "columnspan", type := .positiveInteger, specs := fullTiers },
  { name := "src", type := .uri, specs := fullTiers },
  { name := "alt", type := .string, specs := fullTiers },
  { name := "valign", type := .length, specs := fullTiers },
  { name := "index", type := .integer, specs := fullTiers, deprecated := true },
  { name := "actiontype", type := .string, specs := fullTiers },
  { name := "selection", type := .positiveInteger, specs := fullTiers },
  { name := "encoding", type := .string, specs := coreTiers },
  { name := "cd", type := .string, specs := fullTiers },
  { name := "name", type := .string, specs := fullTiers },
  { name := "target", type := .string, specs := coreTiers }]

/-- The attributes that both versions know. -/
def attributes : List AttributeDefinition := contentAttributes ++ presentationAttributes

/-- The attributes that version 4 adds. -/
def intentAttributes : List AttributeDefinition := [
  { name := "intent", type := .string, specs := coreTiers },
  { name := "arg", type := .string, specs := coreTiers }]

end Catalog

end MathLint
