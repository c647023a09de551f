import RowCast.Text.CaseFold
import RowCast.Url.Address
import RowCast.Url.Label
import RowCast.Url.Path

/-!
# URLs

Absolute URLs, read leniently as browsers do and written in one normal form. Hosts are ASCII; a host
with other characters is refused.
-/

namespace RowCast

/-- Why a text is no absolute URL. -/
inductive UrlError where
  | emptyHost
  | invalidDomain
  | invalidDomainCharacter
  | invalidPort
  | invalidIpv4
  | invalidIpv6
  | relative
  deriving DecidableEq, Repr

namespace UrlError

/-- The text of an error in a URL. -/
def message : UrlError → String
  | emptyHost => "empty host"
  | invalidDomain => "invalid international domain name"
  | invalidDomainCharacter => "invalid domain character"
  | invalidPort => "invalid port number"
  | invalidIpv4 => "invalid IPv4 address"
  | invalidIpv6 => "invalid IPv6 address"
  | relative => "relative URL without a base"

end UrlError

/-- Where a resource is found: user, host and the number behind the host, in their written forms. -/
structure Url.Authority where
  /-- The name and password with `@` behind them, or nothing. -/
  user : List Char
  host : List Char
  /-- The number behind the host, if it is given and is not the usual one of the scheme. -/
  portNumber : Option Nat
  deriving DecidableEq

/-- An absolute URL, its parts percent-encoded. -/
structure Url where
  scheme : List Char
  authority : Option Url.Authority
  path : List Char
  query : Option (List Char)
  fragment : Option (List Char)
  deriving DecidableEq

namespace Url

/-- The text of the authority. -/
def Authority.text (a : Authority) : List Char :=
  a.user ++ a.host ++
    match a.portNumber with
    | some number => ':' :: Text.natText number
    | none => []

/-- The text of a URL. Without an authority, a path does not begin with two slashes. -/
def text (u : Url) : String :=
  String.ofList <| u.scheme ++ ':' ::
    (match u.authority with
      | some a => ['/', '/'] ++ a.text
      | none => if u.path.take 2 = ['/', '/'] then ['/', '.'] else []) ++
    u.path ++ (u.query.elim [] ('?' :: ·)) ++ (u.fragment.elim [] ('#' :: ·))

/-- The kind of a scheme. -/
def kindOf (scheme : List Char) : SchemeKind :=
  let name := String.ofList scheme
  if name = "file" then .file
  else if ["http", "https", "ws", "wss", "ftp"].contains name then .network
  else .other

/-- The number that the hosts of a scheme usually go by. -/
def usualPort (scheme : List Char) : Option Nat :=
  let name := String.ofList scheme
  if name = "http" ∨ name = "ws" then some 80
  else if name = "https" ∨ name = "wss" then some 443
  else if name = "ftp" then some 21
  else none

/-- Whether a character may stand in a scheme. -/
def isSchemeChar (c : Char) : Bool :=
  isLetter c || Text.isDigit c || c == '+' || c == '-' || c == '.'

/-- Split a text into its scheme, in small letters, and what follows the colon. -/
def splitScheme (s : List Char) : Option (List Char × List Char) :=
  let inScheme := fun c => isSchemeChar c || isBreak c
  match dropBreaks (s.takeWhile inScheme), s.dropWhile inScheme with
  | c :: scheme, ':' :: rest => if isLetter c then some (Text.lower (c :: scheme), rest) else none
  | _, _ => none

/-- The text without controls and spaces at its ends. -/
def trimControls (s : List Char) : List Char :=
  let isEdge := fun c : Char => decide (c.toNat ≤ 32)
  ((s.dropWhile isEdge).reverse.dropWhile isEdge).reverse

/-- Whether a character ends the authority. -/
def endsAuthority (kind : SchemeKind) (c : Char) : Bool :=
  c == '/' || c == '?' || c == '#' || (kind.isSpecial && c == '\\')

/-- Whether a character may not stand in the name of a network host. -/
def isForbiddenInDomain (c : Char) : Bool :=
  c.toNat ≤ 32 || 126 < c.toNat ||
    ['%', '#', '/', ':', '<', '>', '?', '@', '[', '\\', ']', '^', '|'].contains c

/-- Whether a character may not stand in the host of a scheme of its own. -/
def isForbiddenInOpaqueHost (c : Char) : Bool :=
  ['\x00', '\t', '\n', '\r', ' ', '#', '/', ':', '<', '>', '?', '@', '[', '\\', ']', '^',
    '|'].contains c

/-- Read a host in brackets. -/
def readBracketed (host : List Char) : Except UrlError (List Char) :=
  if host.getLast? = some ']' then
    match readIpv6 host.tail.dropLast with
    | some pieces => .ok ('[' :: ipv6Text pieces ++ [']'])
    | none => .error .invalidIpv6
  else .error .invalidIpv6

/--
Read the host of a network or file URL: a name in small letters, or an address. A name with
characters beyond ASCII is refused, as the tables that map it to ASCII are left out here.
-/
def readHost (host : List Char) : Except UrlError (List Char) :=
  if host.head? = some '[' then readBracketed host
  else
    let domain := Text.lower (percentDecodeAscii host)
    if domain.any isForbiddenInDomain then .error .invalidDomain
    else if domain = [] then .error .emptyHost
    else if !areAllowedLabels domain then .error .invalidDomain
    else if endsInNumber domain then
      match readIpv4 domain with
      | some address => .ok (ipv4Text address)
      | none => .error .invalidIpv4
    else .ok domain

/-- Read the host of a scheme of its own, whose name has no rules but a few forbidden characters. -/
def readOpaqueHost (host : List Char) : Except UrlError (List Char) :=
  if host.head? = some '[' then readBracketed host
  else if host.any isForbiddenInOpaqueHost then .error .invalidDomainCharacter
  else .ok (percentEncode inControlSet host)

/-- Split off the host: up to a colon outside brackets or the end of the authority. -/
def splitHost (kind : SchemeKind) : Bool → List Char → List Char × List Char
  | _, [] => ([], [])
  | inBrackets, c :: rest =>
    if (c = ':' ∧ inBrackets = false) ∨ endsAuthority kind c = true then ([], c :: rest)
    else
      let inBrackets := if c = '[' then true else if c = ']' then false else inBrackets
      let (host, rest) := splitHost kind inBrackets rest
      (c :: host, rest)

/-- Read the number behind the colon of a host; it must be followed by the end of the authority. -/
def readPort (usual : Option Nat) (s : List Char) : Except UrlError (Option Nat × List Char) :=
  let (digits, rest) := Text.spanDigits s
  let number := Text.digitsValue 0 digits
  if 65535 < number then .error .invalidPort
  else if rest = [] ∨ ['/', '\\', '?', '#'].any (fun c => rest.head? == some c) then
    .ok (if digits = [] ∨ usual = some number then none else some number, rest)
  else .error .invalidPort

/-- The written form of the name and password before `@`. -/
def userText (user : List Char) : List Char :=
  let name := user.takeWhile (· != ':')
  let password := (user.dropWhile (· != ':')).tail
  if name = [] ∧ password = [] then []
  else
    percentEncode inUserSet name ++
      (if password = [] then [] else ':' :: percentEncode inUserSet password) ++ ['@']

/-- Split a text at the last `@` of its authority. -/
def splitUser (kind : SchemeKind) (s : List Char) : Option (List Char) × List Char :=
  let authority := s.takeWhile fun c => !endsAuthority kind c
  let rest := s.drop authority.length
  if authority.contains '@' then
    let host := (authority.reverse.takeWhile (· != '@')).reverse
    (some (authority.take (authority.length - host.length - 1)), host ++ rest)
  else (none, s)

/-- Read an authority behind its two slashes. -/
def readAuthority (scheme : List Char) (kind : SchemeKind) (s : List Char) :
    Except UrlError (Authority × List Char) := do
  let (user, s) := splitUser kind s
  if user = some [] ∧ s.head?.any (endsAuthority kind) = true then .error .emptyHost
  let (host, rest) := splitHost kind false s
  if kind = .network ∧ host = [] then .error .emptyHost
  let host ← if kind = .other then readOpaqueHost host else readHost host
  if host = [] ∧ rest.head? = some ':' then .error .emptyHost
  let (number, rest) ← match rest with
    | ':' :: rest => readPort (usualPort scheme) rest
    | rest => .ok (none, rest)
  let user := userText (user.getD [])
  if host = [] ∧ user ≠ [] then .error .emptyHost
  .ok (⟨user, host, number⟩, rest)

/-- Split a text before its query or fragment. -/
def splitPath (s : List Char) : List Char × List Char :=
  let path := s.takeWhile fun c => c != '?' && c != '#'
  (path, s.drop path.length)

/-- Complete a URL by the query and fragment that follow its path. -/
def finish (scheme : List Char) (authority : Option Authority) (path rest : List Char) : Url :=
  let (query, rest) := match rest with
    | '?' :: more =>
      let inSet := if (kindOf scheme).isSpecial then inSpecialQuerySet else inQuerySet
      let query := more.takeWhile (· != '#')
      (some (percentEncode inSet (dropBreaks query)), more.drop query.length)
    | rest => (none, rest)
  let fragment := match rest with
    | '#' :: more => some (percentEncode inFragmentSet (dropBreaks more))
    | _ => none
  ⟨scheme, authority, path, query, fragment⟩

/-- Read what follows an authority; a special scheme has a path in any case. -/
def readAfterAuthority (scheme : List Char) (kind : SchemeKind) (authority : Authority)
    (s : List Char) : Url :=
  let (given, rest) := splitPath s
  let path :=
    if kind.isSpecial then
      match given with
      | '/' :: more => (readPath kind true ['/'] more).1
      | '\\' :: more => (readPath kind true ['/'] more).1
      | more => (readPath kind true ['/'] more).1
    else match given with
      | [] => []
      | '/' :: more => (readPath kind true [] ('/' :: more)).1
      | more => (readPath kind true ['/'] more).1
  finish scheme (some authority) path rest

/-- Read a scheme of its own: with an authority, with a path, or with an opaque text. -/
def readOther (scheme s : List Char) : Except UrlError Url :=
  match s with
  | '/' :: '/' :: more => do
    let (authority, rest) ← readAuthority scheme .other more
    .ok (readAfterAuthority scheme .other authority rest)
  | '/' :: more =>
    let (given, rest) := splitPath more
    .ok (finish scheme none (readPath .other false ['/'] given).1 rest)
  | s =>
    let (given, rest) := splitPath s
    .ok (finish scheme none (percentEncode inControlSet given) rest)

/-- The host of a `file` URL; a drive letter in its place belongs to the path. -/
def splitFileHost (s : List Char) : List Char × List Char :=
  let given := s.takeWhile fun c => !endsAuthority .file c
  let host := dropBreaks given
  if isDrive host then ([], s) else (host, s.drop given.length)

/-- Read a `file` URL with a host or two slashes; the local host is the same as none. -/
def readFileHost (scheme s : List Char) : Except UrlError Url := do
  let (given, rest) := splitFileHost s
  let host ← if given = [] then .ok [] else readHost given
  if host = [] ∨ host = "localhost".toList then
    let (given, rest) := splitPath rest
    .ok (finish scheme (some ⟨[], [], none⟩) (readPath .file false ['/'] given).1 rest)
  else
    let (given, rest) := splitPath rest
    let given := match given with
      | '/' :: more => more
      | '\\' :: more => more
      | more => more
    let (path, hasHost) := readPath .file true ['/'] given
    .ok (finish scheme (some ⟨[], if hasHost then host else [], none⟩) path rest)

/-- What follows the slash or backslash at the front of a text, if there is one. -/
def dropSlash? (s : List Char) : Option (List Char) :=
  match s.dropWhile isBreak with
  | '/' :: rest => some rest
  | '\\' :: rest => some rest
  | _ => none

/-- Read a `file` URL behind its scheme. Breaks are still in the text: its path is read by them. -/
def readFile (scheme s : List Char) : Except UrlError Url :=
  match (dropSlash? s).bind dropSlash? with
  | some more => readFileHost scheme more
  | none =>
    let (given, rest) := splitPath s
    let front := if (dropSlash? s).isSome then [] else ['/']
    .ok (finish scheme (some ⟨[], [], none⟩) (readPath .file false front given).1 rest)

/-- Read a network URL behind its scheme; any number of slashes may precede the authority. -/
def readNetwork (scheme s : List Char) : Except UrlError Url := do
  let (authority, rest) ←
    readAuthority scheme .network (s.dropWhile fun c => c == '/' || c == '\\')
  .ok (readAfterAuthority scheme .network authority rest)

/-- Read an absolute URL whose host is in ASCII. -/
def parse (text : String) : Except UrlError Url :=
  match splitScheme (trimControls text.toList) with
  | none => .error .relative
  | some (scheme, rest) =>
    match kindOf scheme with
    | .file => readFile scheme rest
    | .other => readOther scheme (dropBreaks rest)
    | .network => readNetwork scheme (dropBreaks rest)

end Url

end RowCast
