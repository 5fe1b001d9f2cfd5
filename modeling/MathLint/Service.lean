import MathLint.Address
import MathLint.Comparison
import MathLint.Intent
import MathLint.Latex

/-!
# The service

`Service.reply` answers a request: it finds the route, reads the fields of the body, and runs the
linter. All issues with the fields of a body are reported, in the order of the fields.
-/

namespace MathLint.Service

/-- A request; a request without a body has the body null. -/
structure Request where
  method : String
  address : String
  body : Value

/-- A step to a place in the body of a request. -/
inductive Step where
  | field (name : String)
  | item (index : Nat)
  deriving DecidableEq, Repr

/-- An issue with the body of a request. -/
structure Issue where
  kind : String
  place : List Step
  message : String
  deriving DecidableEq, Repr

/-- The answer to a request. -/
inductive Response where
  | json (status : Nat) (body : Value)
  | text (status : Nat) (body : String)
  /-- A body with issues. -/
  | invalid (issues : List Issue)

/-- An answer that says one thing in detail. -/
def detail (status : Nat) (message : String) : Response :=
  .json status (.object [("detail", .str message)])

/-- The answer to a request on which the linter fails. -/
def failure : Response := .text 500 "Internal Server Error"

/-- The answer that a result gives. -/
def answer (r : Except Fault Value) : Response :=
  match r with
  | .ok v => .json 200 v
  | .error _ => failure

/-! ## Fields -/

/-- The place of a field. -/
def place (name : String) : List Step := [.field "body", .field name]

/-- What a field gives: the issues with it, and its value. -/
abbrev Checked (α : Type) := List Issue × α

/-- The issue of a field that is missing. -/
def missing (place : List Step) : Issue := ⟨"missing", place, "Field required"⟩

/-- The issue of a value that is no text. -/
def noText (place : List Step) : Issue := ⟨"string_type", place, "Input should be a valid string"⟩

/-- A field as spelled in a body, with its value. The first spelling wins. -/
def find? (body : List (String × Value)) (spellings : List String) : Option (String × Value) :=
  spellings.findSome? fun s => (body.lookup s).map fun v => (s, v)

/-- A text field with a default. -/
def textField (body : List (String × Value)) (spellings : List String) (otherwise : String) :
    Checked String :=
  match find? body spellings with
  | none => ([], otherwise)
  | some (_, .str s) => ([], s)
  | some (name, _) => ([noText (place name)], otherwise)

/-- A text field that must be there. -/
def requiredField (body : List (String × Value)) (name : String) : Checked String :=
  match body.lookup name with
  | none => ([missing (place name)], "")
  | some _ => textField body [name] ""

/-- The words that stand for true. -/
def trueWords : List String := ["1", "on", "t", "true", "y", "yes"]

/-- The words that stand for false. -/
def falseWords : List String := ["0", "off", "f", "false", "n", "no"]

/-- A text in any case as a truth value. -/
def wordFlag? (s : String) : Option Bool :=
  let word := String.ofList (s.toList.map Char.toLower)
  if trueWords.contains word then some true
  else if falseWords.contains word then some false
  else none

/-- An integer as a truth value. -/
def intFlag? (n : Int) : Option Bool :=
  if n = 0 then some false else if n = 1 then some true else none

/-- A field with a value of a kind that can stand for a truth value. -/
def readFlag (name : String) : Option Bool → Checked (Option Bool)
  | some b => ([], some b)
  | none =>
    ([⟨"bool_parsing", place name,
      "Input should be a valid boolean, unable to interpret input"⟩], none)

/-- A field with a value of another kind. -/
def refuseFlag (name : String) : Checked (Option Bool) :=
  ([⟨"bool_type", place name, "Input should be a valid boolean"⟩], none)

/-- A field with an integer. One that does not fit into 64 bits is of another kind. -/
def intFlag (name : String) (n : Int) : Checked (Option Bool) :=
  if -0x8000000000000000 ≤ n && n < 0x8000000000000000 then readFlag name (intFlag? n)
  else refuseFlag name

/-- A truth value in a field, if there is one. -/
def flagValue (name : String) : Value → Checked (Option Bool)
  | .null => ([], none)
  | .bool b => ([], some b)
  | .int n => intFlag name n
  | .str s => readFlag name (wordFlag? s)
  | .fraction m p =>
    if m % Nat.pow 10 p = 0 then intFlag name (m / Nat.pow 10 p) else refuseFlag name
  | _ => refuseFlag name

/-- The texts of a list in a field, the first of them at an index. -/
def textItems (name : String) : (index : Nat) → List Value → Checked (List String)
  | _, [] => ([], [])
  | index, .str s :: vs =>
    let (issues, texts) := textItems name (index + 1) vs
    (issues, s :: texts)
  | index, _ :: vs =>
    let (issues, texts) := textItems name (index + 1) vs
    (noText (place name ++ [.item index]) :: issues, texts)

/-- A list of texts in a field, if there is one. -/
def textsValue (name : String) : Value → Checked (Option (List String))
  | .null => ([], none)
  | .list items =>
    let (issues, texts) := textItems name 0 items
    (issues, some texts)
  | _ => ([⟨"list_type", place name, "Input should be a valid list"⟩], none)

/-- The name of a profile in a field, if there is one. -/
def profileField (body : List (String × Value)) : Checked (Option String) :=
  match body.lookup "profile" with
  | none | some .null => ([], none)
  | some (.str s) => ([], some s)
  | some _ => ([noText (place "profile")], none)

/-- What a field gives that may be missing. -/
def optionalField {α : Type} (body : List (String × Value)) (spellings : List String)
    (value : String → Value → Checked (Option α)) : Checked (Option α) :=
  match find? body spellings with
  | none => ([], none)
  | some (name, v) => value name v

/-- The lint options in a body. -/
def optionFields (settings : Settings) (body : List (String × Value)) : Checked Options :=
  let usual := Options.ofSettings settings
  let (profileIssues, profile) := profileField body
  let (flagIssues, flag) :=
    optionalField body ["ignoreDataMjxAttributes", "ignore_data_mjx_attributes"] flagValue
  let (prefixIssues, prefixes) :=
    optionalField body ["foreignAttributePrefixes", "foreign_attribute_prefixes"] textsValue
  (profileIssues ++ flagIssues ++ prefixIssues, {
    profile := (profile.map fun name => .named (.str name)).getD usual.profile
    ignoreMetadata := flag.getD usual.ignoreMetadata
    metadataPrefixes := (prefixes.map fun ps => ps.map Text.lower).getD usual.metadataPrefixes })

/-! ## Routes -/

/-- The routes of the service. -/
inductive Route where
  | health
  | profiles
  | lint
  | compare
  | latex
  | intent
  deriving DecidableEq, Repr

/-- The paths of the routes. -/
def paths : List (String × Route) :=
  [("/health", .health), ("/profiles", .profiles), ("/lint", .lint), ("/lint/compare", .compare),
    ("/lint/latex", .latex), ("/intent", .intent)]

/-- The method that a route takes. -/
def Route.method : Route → String
  | health | profiles => "GET"
  | _ => "POST"

/-- The route that a path names. A line feed at the end of the path does not count. -/
def Route.named? (path : List Char) : Option Route :=
  match path.reverse with
  | '\n' :: rest => paths.lookup (String.ofList rest.reverse)
  | _ => paths.lookup (String.ofList path)

/-- The route of a path. Slashes at the end of a path that names no route do not count. -/
def Route.ofPath? (path : List Char) : Option Route :=
  named? path <|> named? (path.reverse.dropWhile (· == '/')).reverse

/-- The answer to a body that must be an object, from the fields of the object. -/
def withFields (body : Value) (f : List (String × Value) → Response) : Response :=
  match body with
  | .object fields => f fields
  | .null => .invalid [missing [.field "body"]]
  | _ =>
    .invalid [⟨"model_attributes_type", [.field "body"],
      "Input should be a valid dictionary or object to extract fields from"⟩]

/-- The answer of a route that needs checked fields: the issues with them, if there are any. -/
def unlessIssues (issues : List Issue) (r : Response) : Response :=
  if issues.isEmpty then r else .invalid issues

/-- The answer of the route that lints a source. -/
def replyLint (settings : Settings) (read : XmlReader) (body : List (String × Value)) :
    Response :=
  let (optionIssues, options) := optionFields settings body
  let (sourceIssues, source) := textField body ["source"] ""
  unlessIssues (optionIssues ++ sourceIssues) <|
    answer ((MathLint.lint read options Check.all source).map Report.toValue)

/-- The answer of the route that compares two sources. -/
def replyCompare (settings : Settings) (read : XmlReader) (body : List (String × Value)) :
    Response :=
  let (optionIssues, options) := optionFields settings body
  let (firstIssues, first) := textField body ["sourceA", "source_a"] ""
  let (secondIssues, second) := textField body ["sourceB", "source_b"] ""
  unlessIssues (optionIssues ++ firstIssues ++ secondIssues) <|
    answer ((compareSources read options (.str first) (.str second)).map Comparison.toValue)

/-- The answer of the route that lints LaTeX. A fault in what the request says is reported in
detail. -/
def replyLatex (settings : Settings) (read : XmlReader) (converter : Latex.Converter)
    (body : List (String × Value)) : Response :=
  let (optionIssues, options) := optionFields settings body
  let (latexIssues, latex) := requiredField body "latex"
  let (displayIssues, display) := textField body ["display"] "block"
  unlessIssues (optionIssues ++ latexIssues ++ displayIssues) <|
    match Latex.Display.ofLoose (.str display) with
    | .error _ => detail 422 "display must be one of ['block', 'inline']"
    | .ok display =>
      match (Latex.lint read converter latex options display).result with
      | .ok report => .json 200 report.toValue
      | .error f => if f.isBadValue then detail 422 f.message else failure

/-- The answer of the route that suggests intent. -/
def replyIntent (read : XmlReader) (body : List (String × Value)) : Response :=
  let (issues, source) := textField body ["source"] ""
  unlessIssues issues (.json 200 (Intent.suggest read source).toValue)

/-- The answer of a route to a method, in upper case. -/
def replyRoute (settings : Settings) (read : XmlReader) (converter : Latex.Converter)
    (route : Route) (method : String) (body : Value) : Response :=
  if method != route.method then detail 405 "Method Not Allowed"
  else
    match route with
    | .health => .json 200 (.object [("status", .str "ok")])
    | .profiles => .json 200 Profile.listing
    | .lint => withFields body (replyLint settings read)
    | .compare => withFields body (replyCompare settings read)
    | .latex => withFields body (replyLatex settings read converter)
    | .intent => withFields body (replyIntent read)

/-- The answer without its body. -/
def Response.bare : Response → Response
  | json status _ | text status _ => .text status ""
  | invalid _ => .text 422 ""

/-- The upper case of a character of a method. Of the letters beyond ASCII only those matter that
have one in ASCII. -/
def upperMethodChar (c : Char) : List Char :=
  match c with
  | 'ſ' => ['S']
  | 'ﬅ' | 'ﬆ' => ['S', 'T']
  | c => [c.toUpper]

/-- The answer to a request, unless its address is at fault. The method may be in any case; a
request for the head of an answer gets no body. -/
def reply (settings : Settings) (read : XmlReader) (converter : Latex.Converter) (r : Request) :
    Except Address.Fault Response := do
  let method := String.ofList (r.method.toList.flatMap upperMethodChar)
  let whole :=
    match Route.ofPath? (← Address.path r.address) with
    | none => detail 404 "Not Found"
    | some route => replyRoute settings read converter route method r.body
  return if method == "HEAD" then whole.bare else whole

end MathLint.Service
