import MathLint.Text.Quoted

/-!
# Addresses of requests

A request says by an address what it is for: a path, before which a scheme and a host may stand, and
behind it a query and a fragment. On the service only the path counts.

* `Address.path`: the path that an address stands for. Segments that stand for the same or for the
  outer place are resolved first; then characters that are escaped by their number are restored,
  twice over.
-/

namespace MathLint.Address

/-- Why an address stands for no path. -/
inductive Fault where
  | tooLong
  /-- The first control character, and where it stands. -/
  | control (c : Char) (index : Nat)
  | doubleSlash
  | colon
  deriving DecidableEq, Repr

/-- A fault in words. -/
def Fault.message : Fault → String
  | tooLong => "URL too long"
  | control c index =>
    "Invalid non-printable ASCII character in URL, " ++ Text.quoted c.toString ++
      s!" at position {index}."
  | doubleSlash => "Relative URLs cannot have a path starting with '//'"
  | colon => "Relative URLs cannot have a path starting with ':'"

/-- The characters that an address may have at most. -/
def lengthLimit : Nat := 65536

/-- The control characters of ASCII. -/
def isControl (c : Char) : Bool := c.toNat < 0x20 || c.toNat == 0x7F

/-- An address as written, without its query and its fragment. -/
structure Written where
  scheme : List Char
  /-- The host, with the user before it and the port behind it. -/
  authority : List Char
  path : List Char

/-- A character of a scheme. -/
def isSchemeChar (c : Char) : Bool := c.isAlphanum || c == '+' || c == '.' || c == '-'

/-- The scheme of an address and what stands behind it. -/
def splitScheme (cs : List Char) : List Char × List Char :=
  match cs.dropWhile isSchemeChar with
  | ':' :: rest =>
    let scheme := cs.takeWhile isSchemeChar
    if scheme.head?.all Char.isAlpha then (scheme, rest) else ([], cs)
  | _ => ([], cs)

/-- An address taken apart. -/
def Written.ofChars (cs : List Char) : Written :=
  let (scheme, rest) := splitScheme cs
  let rest := rest.takeWhile fun c => c != '?' && c != '#'
  match rest with
  | '/' :: '/' :: rest => ⟨scheme, rest.takeWhile (· != '/'), rest.dropWhile (· != '/')⟩
  | rest => ⟨scheme, [], rest⟩

/-- Whether an address names a host, or a user or a port of one. -/
def Written.hasAuthority (w : Written) : Bool := w.authority.any fun c => c != '@' && c != ':'

/-- Whether an address names a scheme and a host. -/
def Written.isAbsolute (w : Written) : Bool :=
  let host := (w.authority.reverse.takeWhile (· != '@')).reverse.takeWhile (· != ':')
  !w.scheme.isEmpty && !host.isEmpty

/-- The segments that are left of a path, with one segment more. -/
def addSegment (segments : List String) (segment : String) : List String :=
  if segment == "." then segments
  else if segment == ".." then
    if segments == [""] then segments else segments.dropLast
  else segments ++ [segment]

/-- A path with its dot segments resolved. -/
def resolve (path : List Char) : List Char :=
  ("/".intercalate (((String.ofList path).splitOn "/").foldl addSegment [])).toList

/-- The path on the service, without its dot segments resolved. -/
def Written.onService (w : Written) : Except Fault (List Char) :=
  let bare := w.scheme.isEmpty && !w.hasAuthority
  if w.isAbsolute then .ok w.path
  else if bare && ['/', '/'].isPrefixOf w.path then .error .doubleSlash
  else if bare && [':'].isPrefixOf w.path then .error .colon
  else
    let path := if bare then w.path else resolve w.path
    .ok ('/' :: path.dropWhile (· == '/'))

/-- The value of a hexadecimal digit. -/
def hexValue? (c : Char) : Option Nat :=
  if c.isDigit then some (c.toNat - 0x30)
  else if 'a' ≤ c && c ≤ 'f' then some (c.toNat - 0x57)
  else if 'A' ≤ c && c ≤ 'F' then some (c.toNat - 0x37)
  else none

/-- The character of an escaped octet. For one beyond ASCII, which no path of the service has, there
is a mark. -/
def ofOctet (n : Nat) : Char := if n < 0x80 then Char.ofNat n else '\uFFFD'

/-- A text with its escapes replaced: a percent sign and two hexadecimal digits. -/
def unescape : List Char → List Char
  | '%' :: a :: b :: cs =>
    match hexValue? a, hexValue? b with
    | some m, some n => ofOctet (16 * m + n) :: unescape cs
    | _, _ => '%' :: unescape (a :: b :: cs)
  | c :: cs => c :: unescape cs
  | [] => []

/-- The path on the service that an address stands for. -/
def path (address : String) : Except Fault (List Char) := do
  let cs := address.toList
  if lengthLimit < cs.length then .error .tooLong
  match cs.dropWhile (!isControl ·) with
  | c :: _ => .error (.control c (cs.takeWhile (!isControl ·)).length)
  | [] =>
    let path := resolve (← (Written.ofChars cs).onService)
    return unescape (unescape (if path.isEmpty then ['/'] else path))

end MathLint.Address
