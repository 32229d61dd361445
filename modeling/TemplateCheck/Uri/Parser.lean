import TemplateCheck.Uri.Host

/-! # Reading URIs

A URI is read leniently: blanks at its ends and line breaks inside it are
dropped, backslashes count as slashes where the scheme names a server or a
file, dot segments are resolved, and characters that may not stand in a part are
percent-encoded. A text without a scheme is refused.
-/

namespace TemplateCheck.Uri

inductive SchemeKind where
  | file
  | server
  | other
  deriving Repr, DecidableEq

def schemeKind (scheme : String) : SchemeKind :=
  if scheme = "file" then .file
  else if ["http", "https", "ws", "wss", "ftp"].contains scheme then .server
  else .other

def defaultPort? (scheme : String) : Option Nat :=
  if scheme = "http" || scheme = "ws" then some 80
  else if scheme = "https" || scheme = "wss" then some 443
  else if scheme = "ftp" then some 21
  else none

def SchemeKind.isSlash (kind : SchemeKind) (character : Char) : Bool :=
  character = '/' || (character = '\\' && kind != .other)

/-- Controls and spaces go from the ends, tabs and line breaks from everywhere. -/
def clean (text : List Char) : List Char :=
  let isEdge (character : Char) : Bool := character.toNat ≤ 0x20
  let inner := ((text.dropWhile isEdge).reverse.dropWhile isEdge).reverse
  inner.filter fun character => !(character = '\t' || character = '\n' || character = '\r')

def isSchemeChar (character : Char) : Bool :=
  character.isAlphanum || character = '+' || character = '-' || character = '.'

/-- The scheme in lower case, and what follows its colon. -/
def scheme? (input : List Char) : Option (String × List Char) := do
  let (before, after) ← Text.cutAtFirst ':' input
  match before with
  | first :: _ =>
      if first.isAlpha && before.all isSchemeChar then
        some (String.ofList (before.map Text.lowerAscii), after)
      else none
  | [] => none

def isDriveLetter (segment : List Char) : Bool :=
  match segment with
  | [letter, mark] => letter.isAlpha && (mark = ':' || mark = '|')
  | _ => false

/-- A dot, plain or percent-encoded, off the front of a segment. -/
def dot? (segment : List Char) : Option (List Char) :=
  match segment with
  | '.' :: rest => some rest
  | '%' :: '2' :: letter :: rest => if letter = 'e' || letter = 'E' then some rest else none
  | _ => none

def isSingleDot (segment : List Char) : Bool :=
  dot? segment == some []

def isDoubleDot (segment : List Char) : Bool :=
  match dot? segment with
  | some rest => dot? rest == some []
  | none => false

/-- The segments of a path with its dot segments resolved, last first. No `..`
leads out of a drive. The flag says whether a drive letter was met at the start
of a file's path. -/
def resolveSegments (kind : SchemeKind) :
    List (List Char) → List (List Char) → Bool → List (List Char) × Bool
  | done, [], drive => (done, drive)
  | done, segment :: rest, drive =>
      if isDoubleDot segment then
        let shortened := match done with
          | [] => []
          | last :: before => if isDriveLetter last then done else before
        resolveSegments kind (if rest.isEmpty then [] :: shortened else shortened) rest drive
      else if isSingleDot segment then
        resolveSegments kind (if rest.isEmpty then [] :: done else done) rest drive
      else if kind = .file && done.isEmpty && isDriveLetter segment then
        resolveSegments kind ((segment.take 1 ++ [':']) :: done) rest true
      else resolveSegments kind (segment :: done) rest drive

/-- The empty segments at the front of a file's path go, as long as one segment
remains. -/
def dropEmptyFront : List (List Char) → List (List Char)
  | [] :: second :: rest => dropEmptyFront (second :: rest)
  | segments => segments

/-- A path after its first slash, with the flag for a drive letter. -/
def pathAfterSlash (kind : SchemeKind) (input : List Char) : List Char × Bool :=
  let slashed := input.map fun character => if kind.isSlash character then '/' else character
  let raw := Text.splitAt '/' slashed
  let (reversed, drive) :=
    resolveSegments kind [] (raw.map (Percent.encode Percent.pathSet)) false
  let segments := reversed.reverse
  let segments := if kind = .file then dropEmptyFront segments else segments
  ('/' :: ['/'].intercalate segments, drive)

def splitTail (input : List Char) : List Char × Option (List Char) × Option (List Char) :=
  let (front, fragment) := match Text.cutAtFirst '#' input with
    | some (before, after) => (before, some after)
    | none => (input, none)
  match Text.cutAtFirst '?' front with
  | some (before, after) => (before, some after, fragment)
  | none => (front, none, fragment)

/-- The credentials before the last `@`, encoded and with their `@`. -/
def credentialText (input : List Char) : List Char :=
  let encode := Percent.encode Percent.credentialSet
  match Text.cutAtFirst ':' input with
  | none => if input.isEmpty then [] else encode input ++ ['@']
  | some (user, password) =>
      if user.isEmpty && password.isEmpty then []
      else if password.isEmpty then encode user ++ ['@']
      else encode user ++ ':' :: encode password ++ ['@']

/-- The last `@` parts credentials and host. -/
def splitCredentials (input : List Char) : Option (List Char) × List Char :=
  match Text.cutAtFirst '@' input.reverse with
  | some (host, credentials) => (some credentials.reverse, host.reverse)
  | none => (none, input)

/-- The colon that starts a port is the first one outside brackets. -/
def splitPort : Bool → List Char → List Char × Option (List Char)
  | _, [] => ([], none)
  | bracketed, character :: rest =>
      if character = ':' && !bracketed then ([], some rest)
      else
        let inside := if character = '[' then true else if character = ']' then false else bracketed
        let (host, port) := splitPort inside rest
        (character :: host, port)

/-- A port, left out where the scheme implies it. -/
def port? (scheme : String) (digits : List Char) : Option (Option Nat) :=
  if !digits.all Json.isDigit then none
  else if digits.isEmpty then some none
  else
    let number := digits.foldl (fun total digit => total * 10 + Json.digitValue digit) 0
    if 65535 < number then none
    else if defaultPort? scheme = some number then some none
    else some (some number)

/-- The authority of a scheme other than `file`. Credentials and ports need a
host. -/
def authority? (scheme : String) (kind : SchemeKind) (input : List Char) : Option Authority := do
  let (written, place) := splitCredentials input
  let credentials := credentialText (written.getD [])
  let (hostText, portText) := splitPort false place
  if hostText.isEmpty && (kind == .server || portText.isSome || !credentials.isEmpty ||
      written == some []) then none
  else
    let host ← if kind == .server then domainHost? hostText else opaqueHost? hostText
    let port ← match portText with
      | some digits => port? scheme digits
      | none => some none
    return ⟨String.ofList credentials, String.ofList host, port⟩

/-- What follows `//`: an authority, then the path from its first slash on. -/
def withAuthority (scheme : String) (kind : SchemeKind) (input : List Char) :
    Option (Option Authority × List Char) := do
  let isEnd (character : Char) : Bool := kind.isSlash character
  let front := input.takeWhile fun character => !isEnd character
  let rest := input.dropWhile fun character => !isEnd character
  let authority ← authority? scheme kind front
  match rest with
  | [] => return (some authority, if kind == .server then ['/'] else [])
  | _ :: after => return (some authority, (pathAfterSlash kind after).1)

/-- The host of a file URI; the local machine has none. -/
def fileHost? (text : List Char) : Option (List Char) := do
  if text.isEmpty then some []
  else
    let host ← domainHost? text
    if host = "localhost".toList then some [] else some host

/-- What follows `file:`. A drive letter takes the host away. -/
def fileParts (input : List Char) : Option (Option Authority × List Char) := do
  let isSlash := SchemeKind.isSlash .file
  let local_ (path : List Char) : Option Authority × List Char :=
    (some ⟨"", "", none⟩, path)
  match input with
  | first :: second :: rest =>
      if isSlash first && isSlash second then
        let hostText := rest.takeWhile fun character => !isSlash character
        let after := rest.dropWhile fun character => !isSlash character
        if isDriveLetter hostText then return local_ (pathAfterSlash .file rest).1
        else
          let host ← fileHost? hostText
          let inner := if host.isEmpty then after else after.drop 1
          let (path, drive) := pathAfterSlash .file inner
          return (some ⟨"", if drive then "" else String.ofList host, none⟩, path)
      else if isSlash first then return local_ (pathAfterSlash .file (second :: rest)).1
      else return local_ (pathAfterSlash .file input).1
  | [first] =>
      if isSlash first then return local_ ['/'] else return local_ (pathAfterSlash .file input).1
  | [] => return local_ ['/']

def otherParts (scheme : String) (input : List Char) : Option (Option Authority × List Char) :=
  match input with
  | '/' :: '/' :: rest => withAuthority scheme .other rest
  | '/' :: rest => some (none, (pathAfterSlash .other rest).1)
  | _ => some (none, Percent.encode [] input)

def parse (text : String) : Option Uri := do
  let (scheme, rest) ← scheme? (clean text.toList)
  let kind := schemeKind scheme
  let (front, query, fragment) := splitTail rest
  let (authority, path) ← match kind with
    | .file => fileParts front
    | .server => withAuthority scheme .server (front.dropWhile kind.isSlash)
    | .other => otherParts scheme front
  let querySet := if kind = .other then Percent.querySet else Percent.specialQuerySet
  return {
    scheme
    authority
    path := String.ofList path
    query := query.map fun characters => String.ofList (Percent.encode querySet characters)
    fragment := fragment.map fun characters =>
      String.ofList (Percent.encode Percent.fragmentSet characters) }

end TemplateCheck.Uri
