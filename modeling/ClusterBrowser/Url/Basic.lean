import ClusterBrowser.Number.Informal
import ClusterBrowser.Url.Host
import ClusterBrowser.Url.Query

/-!
# URLs

A URL is kept in the form that requests need: in ASCII, without `.` and `..` in its path, and without the usual port of its
scheme.  What follows `#` says nothing to a server and is not kept.

* `Url`: the parts of a URL.
* `Url.parse`: the URL that a text spells.
* `Url.resolve`: a resource below a URL.
-/

namespace ClusterBrowser

/-- Why a text, or what is put together from it, is no URL, or why a URL cannot be asked for. -/
inductive UrlError where
  /-- More than `Url.maxLength` characters. -/
  | tooLong
  /-- Control characters. -/
  | control
  /-- The port is no number. -/
  | badPort
  /-- The host is neither an address nor a name. -/
  | badHost
  /-- The path does not fit behind what comes before it. -/
  | badPath
  /-- The first label of the host looks like the ASCII form of other letters, but is not. -/
  | unreadableHost (e : DomainError)
  /-- The host is an address with a scope that is not in ASCII. -/
  | hostNotAscii
  /-- There is no scheme. -/
  | noScheme
  deriving DecidableEq, Repr

structure Url where
  /-- In lower case; empty if there is none. -/
  scheme : List Char
  user : List Char
  host : List Char
  port : Option Int
  path : List Char
  query : Option (List Char)
  deriving DecidableEq, Repr

namespace Url

/-- The longest text, and the longest part of a URL. -/
def maxLength : Nat := 65536

/-! ## Parts of a text -/

/-- Whether a character is a control character of ASCII. -/
def isControl (c : Char) : Bool := c.toNat < 0x20 || c.toNat = 0x7F

/-- Characters of a scheme after its first letter. -/
def isSchemeChar (c : Char) : Bool := c.isAlphanum || c = '+' || c = '.' || c = '-'

/-- The scheme, and the rest after the colon. The scheme before a colon may be missing. -/
def splitScheme (cs : List Char) : List Char × List Char :=
  match cs.span isSchemeChar with
  | ([], ':' :: rest) => ([], rest)
  | (c :: scheme, ':' :: rest) => if c.isAlpha then (c :: scheme, rest) else ([], cs)
  | _ => ([], cs)

/-- Whether a character ends the authority. -/
def endsAuthority (c : Char) : Bool := c = '/' || c = '?' || c = '#'

/-- The authority after two slashes, and the rest. -/
def splitAuthority : List Char → List Char × List Char
  | '/' :: '/' :: rest => rest.span fun c => !endsAuthority c
  | rest => ([], rest)

/-- The path, and the query after a question mark. -/
def splitQuery (cs : List Char) : List Char × Option (List Char) :=
  match cs.span (· != '?') with
  | (path, _ :: query) => (path, some query)
  | (path, []) => (path, none)

/-- What stands before the last `@`, and the rest. -/
def splitUser (authority : List Char) : List Char × List Char :=
  if authority.contains '@' then
    let (rest, user) := authority.reverse.span (· != '@')
    ((user.drop 1).reverse, rest.reverse)
  else ([], authority)

/-- The host, and what follows it. A host in brackets may hold colons; it goes to the last bracket. -/
def splitHost (cs : List Char) : List Char × List Char :=
  if cs.head? = some '[' && cs.contains ']' then
    let (rest, host) := cs.reverse.span (· != ']')
    (host.reverse, rest.reverse)
  else cs.span (· != ':')

def usualPorts : List (String × Int) := [("ftp", 21), ("http", 80), ("https", 443), ("ws", 80), ("wss", 443)]

/-- The port that a text spells, unless it is the usual one of the scheme as it is given. -/
def readPort (scheme text : List Char) : Except UrlError (Option Int) :=
  if text.isEmpty then .ok none
  else match Decimal.readInformal? text with
    | none => .error .badPort
    | some port => .ok (if usualPorts.lookup (String.ofList scheme) = some port then none else some port)

/-! ## Paths -/

/-- The segments of a path without `.` and `..`; `kept` holds the segments so far, last first. What stands before the first
slash stays if it is empty. -/
def resolveDots (kept : List (List Char)) : List (List Char) → List (List Char)
  | [] => kept.reverse
  | s :: rest =>
    if s = ['.'] then resolveDots kept rest
    else if s = ['.', '.'] then resolveDots (if kept = [[]] then kept else kept.drop 1) rest
    else resolveDots (s :: kept) rest

/-- A path without `.` and `..`. -/
def plainPath (path : List Char) : List Char := ['/'].intercalate (resolveDots [] (Text.splitAt '/' path))

/-- Visible characters of ASCII but for those that a query may not hold. -/
def staysInQuery (c : Char) : Bool := 0x21 ≤ c.toNat && c.toNat ≤ 0x7E && !"\"#<>".toList.contains c

/-- The same for a path. -/
def staysInPath (c : Char) : Bool := staysInQuery c && !"?`\x7b\x7d".toList.contains c

/-! ## Putting parts together -/

/-- Whether a part is not too long. -/
def fits (part : List Char) : Bool := part.length ≤ maxLength

/-- The URL of some parts. -/
def ofParts (scheme authority path : List Char) (query : Option (List Char)) : Except UrlError Url := do
  let (user, rest) := splitUser authority
  let (hostText, rest) := splitHost rest
  let some host := Host.encode? hostText | .error .badHost
  let port ← readPort scheme (if rest.head? = some ':' then rest.drop 1 else rest)
  let hasScheme := !scheme.isEmpty
  let hasAuthority := !user.isEmpty || !host.isEmpty || port.isSome
  if hasAuthority && !path.isEmpty && path.head? != some '/' then .error .badPath
  if !hasScheme && !hasAuthority && (['/', '/'].isPrefixOf path || path.head? = some ':') then .error .badPath
  let path := if hasScheme || hasAuthority then plainPath path else path
  return {
    scheme := Text.lowerAscii scheme, user, host, port
    path := Percent.encodeBy staysInPath path
    query := query.map (Percent.encodeBy staysInQuery) }

def parse (text : List Char) : Except UrlError Url :=
  if !fits text then .error .tooLong
  else if text.any isControl then .error .control
  else
    let (scheme, rest) := splitScheme text
    let (authority, rest) := splitAuthority rest
    let (path, query) := splitQuery (rest.takeWhile (· != '#'))
    ofParts scheme authority path query

/-- The port as it is written, behind a colon. -/
def writtenPort (u : Url) : List Char :=
  match u.port with
  | some port => ':' :: Decimal.write port
  | none => []

/-- Host and port as they are written. -/
def serverName (u : Url) : List Char := Host.written u.host ++ u.writtenPort

/-- User, host and port as they are written. -/
def authority (u : Url) : List Char := (if u.user.isEmpty then [] else u.user ++ ['@']) ++ u.serverName

/-- The URL with another path and query. -/
def withPathAndQuery (u : Url) (path : List Char) (query : Option (List Char)) : Except UrlError Url :=
  if fits u.scheme && fits u.authority && fits path && fits (query.getD []) then
    ofParts u.scheme u.authority path query
  else .error .tooLong

/-- The path, at least a slash, and the query. -/
def target (u : Url) : List Char :=
  (if u.path.isEmpty then ['/'] else u.path) ++
    match u.query with
    | some query => '?' :: query
    | none => []

/-- The URL with another path and query in one text. -/
def withTarget (u : Url) (target : List Char) : Except UrlError Url :=
  let (path, query) := splitQuery target
  u.withPathAndQuery path query

/-- The URL with these parameters and no others. -/
def withParameters (u : Url) (parameters : List (String × String)) : Except UrlError Url :=
  u.withPathAndQuery u.path (if parameters.isEmpty then none else some (Query.encode parameters))

/-! ## Resources below a URL -/

/-- The URL with a slash at the end of its path and query. -/
def asBase (u : Url) : Except UrlError Url :=
  if u.target.getLast? = some '/' then .ok u else u.withTarget (u.target ++ ['/'])

/-- The URL that a text spells if that has scheme and host; else what the text spells after them, put behind a base. -/
def resolve (base : Url) (text : List Char) : Except UrlError Url := do
  let u ← parse text
  if !u.scheme.isEmpty && !u.host.isEmpty then return u
  else base.withTarget (base.target ++ u.target.dropWhile (· = '/'))

/-! ## What a URL shows -/

/-- The path, at least a slash, with what is encoded in it decoded. -/
def decodedPath (u : Url) : String := String.ofList (Percent.decode (if u.path.isEmpty then ['/'] else u.path))

def parameters (u : Url) : List (String × String) := Query.decode (u.query.getD [])

/-- Checks that a host can be written in ASCII. -/
def checkHost (u : Url) : Except UrlError Unit :=
  if u.host.all Punycode.isBasic then .ok () else .error .hostNotAscii

/-- Host and port as they are shown. -/
def shownAuthority (u : Url) : Except UrlError String := do
  let host ← (Host.shown u.host).mapError .unreadableHost
  return String.ofList (host ++ u.writtenPort)

def text (u : Url) : List Char :=
  (if u.scheme.isEmpty then [] else u.scheme ++ [':']) ++
    (if u.authority.isEmpty then [] else '/' :: '/' :: u.authority) ++
    u.path ++
    match u.query with
    | some query => '?' :: query
    | none => []

/-- Whether the text of a URL begins with a word and a colon, as a scheme does. -/
def namesScheme (u : Url) : Bool :=
  match u.text.span fun c => c != ':' && c != '/' with
  | (_ :: _, ':' :: _) => true
  | _ => false

end Url

end ClusterBrowser
