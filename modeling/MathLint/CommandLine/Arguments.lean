import MathLint.Settings
import MathLint.Text.Digit
import MathLint.Text.Pattern
import MathLint.Text.Quoted
import MathLint.Text.Start

/-!
# Command line arguments

`Arguments.read` turns the words of a command line into a `Job`, or says why it cannot. Options may
stand anywhere and may be shortened as long as one option only begins so; a double hyphen ends them.
-/

namespace MathLint.Arguments

/-- The options. -/
inductive Switch where
  | help
  | profile
  | strict
  | json
  deriving DecidableEq, Repr

/-- The spellings of the options. -/
def spellings : List (String × Switch) :=
  [("-h", .help), ("--help", .help), ("--profile", .profile),
    ("--strict-renderer-attributes", .strict), ("--json", .json)]

/-- The name of an option in messages: all its spellings. -/
def Switch.label (s : Switch) : String :=
  "/".intercalate ((spellings.filter (·.2 == s)).map (·.1))

/-- A word of a command line. -/
inductive Word where
  | value (text : String)
  /-- The double hyphen that ends the options. -/
  | divider
  /-- An option, how it is spelled, and the value that is given with it in the same word. -/
  | switch (s : Switch) (spelling : String) (given : Option String)
  | unknown (text : String)

/-- The spelling of an option. -/
def Word.spelling? : Word → Option String
  | switch _ spelling _ => some spelling
  | _ => none

/-- The text before the first equals sign, and the text behind it. -/
def splitEquals (text : String) : String × Option String :=
  let cs := text.toList
  match cs.dropWhile (· != '=') with
  | [] => (text, none)
  | _ :: rest => (String.ofList (cs.takeWhile (· != '=')), some (String.ofList rest))

/-- The options that a word may be short for. -/
def candidates (text : String) : List Word :=
  if Text.beginsWith "--" text then
    let (start, given) := splitEquals text
    (spellings.filter fun o => Text.beginsWith start o.1).map fun o => .switch o.2 o.1 given
  else
    let letter := String.ofList (text.toList.take 2)
    (spellings.filter fun o => o.1 == letter).map fun o =>
      .switch o.2 o.1 (some (String.ofList (text.toList.drop 2)))

open Text Pattern in
/-- Negative numbers, which are values. -/
def negativePattern : Pattern :=
  append (exactly '-')
    (either (oneOrMore (char isDecimal))
      (sequence [many (char isDecimal), exactly '.', oneOrMore (char isDecimal)]))

/-- What a word is that stands before the end of the options. A word that may be short for several
options is refused. -/
def classify (text : String) : Except String Word :=
  if !Text.beginsWith "-" text || text == "-" then .ok (.value text)
  else
    match spellings.lookup text, splitEquals text with
    | some s, _ => .ok (.switch s text none)
    | none, (start, given) =>
      match spellings.lookup start, candidates text with
      | some s, _ => .ok (.switch s start given)
      | none, [w] => .ok w
      | none, [] =>
        if (Text.Pattern.line negativePattern).accepts text.toList || text.toList.contains ' ' then
          .ok (.value text)
        else .ok (.unknown text)
      | none, ws =>
        let names := ", ".intercalate (ws.filterMap Word.spelling?)
        .error s!"ambiguous option: {text} could match {names}"

/-- The words of a command line. Behind the end of the options all are values. -/
def words : List String → Except String (List Word)
  | [] => .ok []
  | text :: rest =>
    if text == "--" then .ok (.divider :: rest.map .value)
    else do
      let word ← classify text
      return word :: (← words rest)

/-- What is asked for. -/
structure Job where
  path : String
  profile : String
  strict : Bool
  json : Bool
  deriving DecidableEq, Repr

/-- Why there is no job: help is asked for, or the arguments are refused in words. -/
inductive Stop where
  | help
  | refused (message : String)
  deriving DecidableEq, Repr

/-- What is known of a job. -/
structure Draft where
  path : Option String := none
  profile : String
  strict : Bool := false
  json : Bool := false
  /-- The words that no option takes. -/
  extras : List String := []

/-- The refusal of a value that an option does not take. -/
def ignored (s : Switch) (given : String) : Stop :=
  .refused s!"argument {s.label}: ignored explicit argument {Text.quoted given}"

/-- What letters behind `-h` ask for: each is an option of its own. -/
def helpLetters : List Char → Stop
  | [] => .help
  | c :: cs => if c == 'h' then helpLetters cs else ignored .help (String.ofList (c :: cs))

/-- What the help option asks for, with the value given with it. -/
def helpStop (spelling : String) : Option String → Stop
  | none => .help
  | some given =>
    if spelling == "-h" && given != "" then helpLetters given.toList else ignored .help given

/-- The draft after the words. -/
def readWords (d : Draft) : List Word → Except Stop Draft
  | [] => .ok d
  | .unknown text :: rest => readWords { d with extras := d.extras ++ [text] } rest
  | .switch .help spelling given :: _ => .error (helpStop spelling given)
  | .switch .strict _ none :: rest => readWords { d with strict := true } rest
  | .switch .json _ none :: rest => readWords { d with json := true } rest
  | .switch .profile _ none :: .value text :: rest => readWords { d with profile := text } rest
  | .switch .profile _ none :: _ => .error (.refused "argument --profile: expected one argument")
  | .switch .profile _ (some given) :: rest =>
    readWords { d with profile := if given == "--" then "" else given } rest
  | .switch s _ (some given) :: _ => .error (ignored s given)
  | .divider :: .value text :: rest =>
    if d.path.isNone then readWords { d with path := some text } rest
    else readWords { d with extras := d.extras ++ ["--", text] } rest
  | .divider :: rest => readWords { d with extras := d.extras ++ ["--"] } rest
  | .value text :: .divider :: rest =>
    if d.path.isNone then readWords { d with path := some text } rest
    else readWords { d with extras := d.extras ++ [text, "--"] } rest
  | .value text :: rest =>
    if d.path.isNone then readWords { d with path := some text } rest
    else readWords { d with extras := d.extras ++ [text] } rest

/-- The job that arguments ask for. The settings name the profile where they do not. -/
def read (settings : Settings) (arguments : List String) : Except Stop Job := do
  let ws ← match words arguments with
    | .ok ws => .ok ws
    | .error message => .error (.refused message)
  let d ← readWords { profile := settings.defaultProfile } ws
  match d.path with
  | none => .error (.refused "the following arguments are required: path")
  | some path =>
    if d.extras.isEmpty then return ⟨path, d.profile, d.strict, d.json⟩
    else
      let extras := " ".intercalate d.extras
      .error (.refused s!"unrecognized arguments: {extras}")

end MathLint.Arguments
