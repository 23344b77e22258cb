import QuotaBoard.Url.Host

/-!
# URLs

How a text is read as an absolute URL, by the rules that web browsers follow: space around it
and tabs and line breaks in it are dropped, a web address may have any number of slashes in
front of its host, a backslash counts as a slash in it, and what may not stand in a part is
escaped.
-/

namespace QuotaBoard

/-- An absolute URL. -/
structure Url where
  scheme : String
  username : String
  password : String
  host : Option Url.Host
  /-- The port, unless it is the usual one of the scheme. -/
  port : Option Nat
  path : String
  query : Option String
  fragment : Option String
deriving DecidableEq

namespace Url

/-! ## Schemes -/

/-- The schemes of web addresses and files; their addresses have the form of a path. -/
def isSpecial (scheme : String) : Bool :=
  ["http", "https", "ws", "wss", "ftp", "file"].contains scheme

/-- The usual port of a scheme. -/
def usualPort? (scheme : String) : Option Nat :=
  if scheme = "http" ∨ scheme = "ws" then some 80
  else if scheme = "https" ∨ scheme = "wss" then some 443
  else if scheme = "ftp" then some 21
  else none

/-- The characters of a scheme after its first letter. -/
def isSchemeChar (c : Char) : Bool := c.isAlphanum || c = '+' || c = '-' || c = '.'

/-- The scheme in lower case, and what follows its colon. -/
def splitScheme? (cs : List Char) : Option (String × List Char) :=
  match cs with
  | c :: _ =>
    if c.isAlpha then
      match cs.dropWhile isSchemeChar with
      | ':' :: rest => some (String.ofList ((cs.takeWhile isSchemeChar).map Char.toLower), rest)
      | _ => none
    else none
  | [] => none

/-! ## Authorities -/

/-- Whether a character ends the authority. -/
def endsAuthority (special : Bool) (c : Char) : Bool :=
  c = '/' || c = '?' || c = '#' || (special && c = '\\')

/-- What stands before and after the last `@`; without one there is nothing before. -/
def splitUserinfo (cs : List Char) : Option (List Char) × List Char :=
  if cs.contains '@' then
    let host := (cs.reverse.takeWhile (· ≠ '@')).reverse
    (some (cs.take (cs.length - host.length - 1)), host)
  else (none, cs)

/-- A host and what follows the colon after it; colons within brackets belong to the host. -/
def splitPort : (inBrackets : Bool) → List Char → List Char × Option (List Char)
  | _, [] => ([], none)
  | inBrackets, c :: rest =>
    if c = ':' && !inBrackets then ([], some rest)
    else
      let (host, port) := splitPort (c = '[' || (inBrackets && c ≠ ']')) rest
      (c :: host, port)

/-- The port that some digits name; none at all is no port. -/
def readPort (cs : List Char) : Except ParseError (Option Nat) :=
  match Host.numeral? 10 cs with
  | none => .error .invalidPort
  | some n =>
    if cs.isEmpty then .ok none else if 65535 < n then .error .invalidPort else .ok (some n)

/-- The user name and the password, escaped. -/
def credentials (userinfo : List Char) : String × String :=
  let encode := fun cs => String.ofList (Percent.encode Percent.userinfo cs)
  (encode (userinfo.takeWhile (· ≠ ':')), encode ((userinfo.dropWhile (· ≠ ':')).drop 1))

/-- Who is addressed, and where. -/
structure Authority where
  username : String
  password : String
  host : Host
  port : Option Nat

/-- The authority that a text names, `followed` by a path, query or fragment or not.  Only an
address that is not special may have an empty host, and then neither port nor user, nor a lone
`@` in front of what follows. -/
def readAuthority (scheme : String) (cs : List Char) (followed : Bool) :
    Except ParseError Authority := do
  let special := isSpecial scheme
  let (userinfo, rest) := splitUserinfo cs
  if userinfo = some [] && rest.isEmpty && followed then throw .emptyHost
  let (hostText, portText) := splitPort false rest
  let (username, password) := credentials (userinfo.getD [])
  if special && hostText.isEmpty then throw .emptyHost
  let host ← if special then Host.parse hostText else Host.parseOpaque hostText
  if host.isEmpty && (portText.isSome || username ≠ "" || password ≠ "") then throw .emptyHost
  let port ← match portText with
    | none => pure none
    | some digits => readPort (digits.takeWhile (· ≠ '\\'))
  return ⟨username, password, host, if port = usualPort? scheme then none else port⟩

/-! ## Paths -/

/-- Whether a segment stands for the directory itself. -/
def isHere (segment : List Char) : Bool :=
  [".", "%2e"].contains (String.ofList (segment.map Char.toLower))

/-- Whether a segment stands for the directory above. -/
def isAbove (segment : List Char) : Bool :=
  ["..", ".%2e", "%2e.", "%2e%2e"].contains (String.ofList (segment.map Char.toLower))

/-- The segments of a path between its slashes. -/
def splitPath (special : Bool) : List Char → List (List Char)
  | [] => [[]]
  | c :: rest =>
    match splitPath special rest with
    | [] => [[]]
    | segment :: segments =>
      if c = '/' || (special && c = '\\') then [] :: segment :: segments
      else (c :: segment) :: segments

/-- Whether a text is a drive of a file system, such as `C:`. -/
def isDrive : List Char → Bool
  | [letter, mark] => letter.isAlpha && (mark = ':' || mark = '|')
  | _ => false

/-- The directory above, with the last segment first; there is none above a drive. -/
def leave : List (List Char) → List (List Char)
  | [] => []
  | segment :: rest => if isDrive segment then segment :: rest else rest

/-- The segments that are left when the dotted ones are carried out; `done` holds those before,
the last one first. -/
def resolveDots : (done : List (List Char)) → List (List Char) → List (List Char)
  | done, [] => done.reverse
  | done, [segment] =>
    if isAbove segment then ([] :: leave done).reverse
    else if isHere segment then ([] :: done).reverse
    else (segment :: done).reverse
  | done, segment :: rest =>
    if isAbove segment then resolveDots (leave done) rest
    else if isHere segment then resolveDots done rest
    else resolveDots (segment :: done) rest

/-- The path that a text after an authority names; it may begin with a slash. -/
def readPath (special : Bool) (cs : List Char) : String :=
  let cs := match cs with
    | c :: rest => if c = '/' || (special && c = '\\') then rest else cs
    | [] => []
  let segments := (resolveDots [] (splitPath special cs)).map (Percent.encode Percent.path)
  String.ofList ('/' :: ['/'].intercalate segments)

/-! ## Whole URLs -/

/-- The text before the query or fragment, and those. -/
def splitTail (cs : List Char) : List Char × Option (List Char) × Option (List Char) :=
  let beforeFragment := cs.takeWhile (· ≠ '#')
  let fragment := match cs.dropWhile (· ≠ '#') with
    | _ :: rest => some rest
    | [] => none
  let query := match beforeFragment.dropWhile (· ≠ '?') with
    | _ :: rest => some rest
    | [] => none
  (beforeFragment.takeWhile (· ≠ '?'), query, fragment)

/-- The URL of a scheme with an authority and a tail of path, query and fragment. -/
def ofParts (scheme : String) (authority : Option Authority) (path : String)
    (query fragment : Option (List Char)) : Url where
  scheme := scheme
  username := (authority.map (·.username)).getD ""
  password := (authority.map (·.password)).getD ""
  host := (authority.map (·.host)).filter (!·.isEmpty)
  port := authority.bind (·.port)
  path := path
  query := query.map fun cs => String.ofList
    (Percent.encode (if isSpecial scheme then Percent.webQuery else Percent.query) cs)
  fragment := fragment.map fun cs => String.ofList (Percent.encode Percent.fragment cs)

/-- The URL after `scheme://`: an authority, and a tail. -/
def readHierarchical (scheme : String) (cs : List Char) : Except ParseError Url := do
  let special := isSpecial scheme
  let tail := cs.dropWhile (!endsAuthority special ·)
  let authority ←
    readAuthority scheme (cs.takeWhile (!endsAuthority special ·)) (!tail.isEmpty)
  let (path, query, fragment) := splitTail tail
  let path := if special || !path.isEmpty then readPath special path else ""
  return ofParts scheme (some authority) path query fragment

/-- Whether a slash of either kind. -/
def isSlash (c : Char) : Bool := c = '/' || c = '\\'

/-- The URL of a file after `file:`; its host may be left out. -/
def readFile (cs : List Char) : Except ParseError Url := do
  match cs with
  | a :: b :: rest =>
    if isSlash a && isSlash b then
      let hostText := rest.takeWhile (!endsAuthority true ·)
      let (path, query, fragment) := splitTail (rest.dropWhile (!endsAuthority true ·))
      if hostText.isEmpty || isDrive hostText then
        return ofParts "file" none (readPath true (hostText ++ path)) query fragment
      let host ← Host.parse hostText
      let host := if host = .domain "localhost" then .domain "" else host
      return ofParts "file" (some ⟨"", "", host, none⟩) (readPath true path) query fragment
    else
      let (path, query, fragment) := splitTail cs
      return ofParts "file" none (readPath true path) query fragment
  | cs =>
    let (path, query, fragment) := splitTail cs
    return ofParts "file" none (readPath true path) query fragment

/-- The URL after a scheme and its colon. -/
def readScheme (scheme : String) (cs : List Char) : Except ParseError Url :=
  if scheme = "file" then readFile cs
  else if isSpecial scheme then readHierarchical scheme (cs.dropWhile isSlash)
  else match cs with
    | '/' :: '/' :: rest => readHierarchical scheme rest
    | _ =>
      let (path, query, fragment) := splitTail cs
      let path := match path with
        | '/' :: _ => readPath false path
        | _ => String.ofList (Percent.encode Percent.control path)
      .ok (ofParts scheme none path query fragment)

/-- A text without the space and control characters around it and the tabs and line breaks in
it. -/
def clean (cs : List Char) : List Char :=
  let isAround := fun c : Char => c.toNat ≤ 32
  ((cs.dropWhile isAround).reverse.dropWhile isAround).reverse.filter fun c =>
    c ≠ '\t' ∧ c ≠ '\n' ∧ c ≠ '\r'

/-- The absolute URL that a text names. -/
def parse (s : String) : Except ParseError Url :=
  match splitScheme? (clean s.toList) with
  | none => .error .relativeWithoutBase
  | some (scheme, rest) => readScheme scheme rest

/-- Whether the scheme is that of a web address. -/
def isWeb (u : Url) : Bool := u.scheme = "http" || u.scheme = "https"

/-- Whether a text is the URL of a web address. -/
def isWebAddress (s : String) : Bool :=
  match parse s with
  | .ok u => u.isWeb
  | .error _ => false

/-! ## The text of a URL -/

/-- The user and password in front of a host. -/
def userinfoText (u : Url) : String :=
  if u.username = "" ∧ u.password = "" then ""
  else u.username ++ (if u.password = "" then "" else ":" ++ u.password) ++ "@"

/-- The text of a URL. -/
def text (u : Url) : String :=
  u.scheme ++ ":" ++
    (match u.host with
      | some host => "//" ++ u.userinfoText ++ host.text ++
          (match u.port with
            | some port => ":" ++ toString port
            | none => "")
      | none => if u.scheme = "file" then "//" else "") ++
    u.path ++
    (match u.query with
      | some query => "?" ++ query
      | none => "") ++
    (match u.fragment with
      | some fragment => "#" ++ fragment
      | none => "")

/-- The URL with a name and a value added to its query. -/
def withQueryPair (u : Url) (name value : String) : Url :=
  let pair := String.ofList (Percent.formEncode name ++ '=' :: Percent.formEncode value)
  { u with query := some (match u.query with
    | none | some "" => pair
    | some query => query ++ "&" ++ pair) }

/-- The URL without user and password. -/
def withoutCredentials (u : Url) : Url := { u with username := "", password := "" }

end Url

end QuotaBoard
