import GraphBatch.Url.Basic

/-!
# Reading URLs

An absolute URL is read into normal form: blanks around it and line breaks
inside it are ignored, the scheme is lower-cased, special URLs get a host and a
path, dot segments are resolved, and characters that may not stand in a part are
percent-encoded.
-/

namespace GraphBatch.Url

/-- The characters of a text without blanks and controls around it and without
tabs and line breaks inside it. -/
def relevantChars (text : String) : List Char :=
  let isOuter (char : Char) : Bool := char.toNat ≤ 0x20
  let front := text.toList.dropWhile isOuter
  let trimmed := (front.reverse.dropWhile isOuter).reverse
  trimmed.filter fun char => !(char = '\t' || char = '\n' || char = '\r')

def isSchemeChar (char : Char) : Bool :=
  char.isAlphanum || char = '+' || char = '-' || char = '.'

/-- The scheme of a text in lower case, and what follows its colon. -/
def splitScheme? (chars : List Char) : Option (String × List Char) :=
  match chars.span isSchemeChar with
  | (first :: scheme, ':' :: rest) =>
      if first.isAlpha then some (String.ofList ((first :: scheme).map Char.toLower), rest)
      else none
  | _ => none

def endsAuthority (special : Bool) (char : Char) : Bool :=
  char = '/' || char = '?' || char = '#' || (special && char = '\\')

def splitLastAt (chars : List Char) : Option (List Char × List Char) :=
  match chars.reverse.span (· ≠ '@') with
  | (after, _ :: before) => some (before.reverse, after.reverse)
  | (_, []) => none

/-- User name and password: what stands before and after the first colon. An
empty password is none. -/
def credentials (chars : List Char) : String × Option String :=
  let encode (part : List Char) := String.ofList (percentEncode encodedInUser part)
  match chars.span (· ≠ ':') with
  | (name, []) => (encode name, none)
  | (name, _ :: password) =>
      (encode name, if password.isEmpty then none else some (encode password))

/-- The characters of a host up to a colon outside brackets or the end of the
authority. -/
def spanHost (special : Bool) : Bool → List Char → List Char × List Char
  | _, [] => ([], [])
  | bracketed, char :: rest =>
      if (char = ':' ∧ ¬ bracketed) ∨ endsAuthority special char then ([], char :: rest)
      else
        let inside := if char = '[' then true else if char = ']' then false else bracketed
        let (host, after) := spanHost special inside rest
        (char :: host, after)

/-- The port after its colon; none if it is empty or the scheme's own. -/
def parsePort (scheme : String) (chars : List Char) :
    Except Fault (Option Nat × List Char) :=
  let (digits, rest) := chars.span Char.isDigit
  let stops (char : Char) : Bool := ['/', '\\', '?', '#'].contains char
  match numberIn? 10 digits with
  | none => .error .invalidPort
  | some port =>
      if 65535 < port ∨ ¬ rest.head?.all stops then .error .invalidPort
      else if digits.isEmpty ∨ some port = defaultPort? scheme then .ok (none, rest)
      else .ok (some port, rest)

/-- Whether a segment is a letter and a colon or a bar. -/
def isDriveLetter : List Char → Bool
  | [letter, mark] => letter.isAlpha && (mark = ':' || mark = '|')
  | _ => false

/-- Whether a drive letter stands at the front of a segment. -/
def startsWithDriveLetter : List Char → Bool
  | letter :: mark :: rest => isDriveLetter [letter, mark] && rest.head?.all (· = '\\')
  | _ => false

/-- A segment in which an encoded dot is a dot. -/
def plainDots : List Char → List Char
  | '%' :: '2' :: 'e' :: rest => '.' :: plainDots rest
  | '%' :: '2' :: 'E' :: rest => '.' :: plainDots rest
  | char :: rest => char :: plainDots rest
  | [] => []

/-- Drops the last segment, unless it starts with a drive letter. -/
def shortened (path : List (List Char)) : List (List Char) :=
  if path.getLast?.any startsWithDriveLetter then path else path.dropLast

/-- Adds a segment to a path: two dots drop the segment before, one dot adds
nothing, and either leaves an empty segment at the end of the path. -/
def addSegment (path : List (List Char)) (segment : List Char) (last : Bool) :
    List (List Char) :=
  if plainDots segment = ['.', '.'] then
    if last then shortened path ++ [[]] else shortened path
  else if plainDots segment = ['.'] then
    if last then path ++ [[]] else path
  else path ++ [percentEncode encodedInPath segment]

def addSegments : List (List Char) → List (List Char) → List (List Char)
  | path, [] => path
  | path, [segment] => addSegment path segment true
  | path, segment :: rest => addSegments (addSegment path segment false) rest

/-- The segments of a path; the backslash separates those of a special URL too. -/
def segments (special : Bool) (chars : List Char) : List (List Char) :=
  (chars.map fun char => if special && char = '\\' then '/' else char).splitOn '/'

/-- The text of a path; the path of a file loses its leading empty segments. -/
def pathText (file : Bool) (path : List (List Char)) : String :=
  let path := if file then path.dropWhile List.isEmpty else path
  let path := if path.isEmpty then [[]] else path
  String.ofList ('/' :: ['/'].intercalate path)

/-- The path that characters after its first slash make. -/
def rootedPath (scheme : String) (chars : List Char) : List (List Char) :=
  addSegments [] (segments (isSpecialScheme scheme) chars)

def dropSlash (special : Bool) : List Char → List Char
  | char :: rest => if char = '/' || (special && char = '\\') then rest else char :: rest
  | [] => []

def endsPath (char : Char) : Bool := char = '?' || char = '#'

/-- The path after an authority. -/
def pathAfterAuthority (scheme : String) (chars : List Char) : String :=
  let special := isSpecialScheme scheme
  if ¬ special ∧ chars.isEmpty then ""
  else pathText false (rootedPath scheme (dropSlash special chars))

def queryAndFragment (scheme : String) (chars : List Char) : Option String × Option String :=
  let fragment (chars : List Char) := String.ofList (percentEncode encodedInFragment chars)
  match chars with
  | '?' :: rest =>
      let (query, after) := rest.span (· ≠ '#')
      let isEncoded := encodedInQuery (isSpecialScheme scheme)
      (some (String.ofList (percentEncode isEncoded query)),
        match after with
        | _ :: rest => some (fragment rest)
        | [] => none)
  | _ :: rest => (none, some (fragment rest))
  | [] => (none, none)

/-- The URL with a path whose end is found in characters. -/
def assembled (scheme : String) (authority : Option Authority) (path : List Char → String)
    (chars : List Char) : Url :=
  let (pathChars, rest) := chars.span fun char => !endsPath char
  let (query, fragment) := queryAndFragment scheme rest
  ⟨scheme, authority, path pathChars, query, fragment⟩

/-- The authority after its two slashes, and what follows it. -/
def parseAuthority (scheme : String) (chars : List Char) :
    Except Fault (Authority × List Char) := do
  let special := isSpecialScheme scheme
  let (authorityChars, rest) := chars.span fun char => !endsAuthority special char
  let (user, hostChars) ←
    match splitLastAt authorityChars with
    | none => pure ([], chars)
    | some ([], []) => if rest.isEmpty then pure ([], []) else throw .emptyHost
    | some (user, after) => pure (user, after ++ rest)
  let (username, password) := credentials user
  let (hostText, afterHost) := spanHost special false hostChars
  if special ∧ hostText.isEmpty then throw .emptyHost
  let host ← if special then Host.ofSpecial hostText else Host.ofPlain hostText
  if hostText.isEmpty ∧ afterHost.head? = some ':' then throw .emptyHost
  let (port, rest) ←
    match afterHost with
    | ':' :: digits => parsePort scheme digits
    | other => pure (none, other)
  if hostText.isEmpty ∧ ¬ (username.isEmpty ∧ password.isNone) then throw .emptyHost
  return (⟨username, password, if hostText.isEmpty then none else some host, port⟩, rest)

/-- A URL after the two slashes of its authority. -/
def afterSlashes (scheme : String) (chars : List Char) : Except Fault Url := do
  let (authority, rest) ← parseAuthority scheme chars
  return assembled scheme (some authority) (pathAfterAuthority scheme) rest

/-- A file on a host, with its path after the first slash and what follows it. A path
that starts with a drive letter needs no host. -/
def fileOn (host : Option Host) (chars : List Char) : Url :=
  let path (chars : List Char) := rootedPath "file" (dropSlash true chars)
  let pathChars := chars.takeWhile fun char => !endsPath char
  let host := if (path pathChars).head?.any isDriveLetter then none else host
  assembled "file" (some ⟨"", none, host, none⟩) (fun chars => pathText true (path chars)) chars

def parseFile (chars : List Char) : Except Fault Url :=
  let isSlash (char : Char) : Bool := char = '/' || char = '\\'
  match chars with
  | first :: second :: rest =>
      if isSlash first && isSlash second then
        let (hostText, after) := rest.span fun char => !endsAuthority true char
        if isDriveLetter hostText then .ok (fileOn none rest)
        else if hostText.isEmpty then .ok (fileOn none after)
        else do
          let host ← Host.ofSpecial hostText
          return fileOn (if host = .name "localhost" then none else some host) after
      else .ok (fileOn none chars)
  | _ => .ok (fileOn none chars)

def parse (text : String) : Except Fault Url :=
  match splitScheme? (relevantChars text) with
  | none => .error .noBase
  | some (scheme, rest) =>
      if scheme = "file" then parseFile rest
      else if isSpecialScheme scheme then
        afterSlashes scheme (rest.dropWhile fun char => char = '/' || char = '\\')
      else
        match rest with
        | '/' :: '/' :: after => afterSlashes scheme after
        | '/' :: after =>
            .ok (assembled scheme none (fun chars => pathText false (rootedPath scheme chars)) after)
        | _ =>
            let path (chars : List Char) := String.ofList (percentEncode isControl chars)
            .ok (assembled scheme none path rest)

end GraphBatch.Url
