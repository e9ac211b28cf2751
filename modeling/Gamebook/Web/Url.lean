import Gamebook.Datum
import Gamebook.Number.Numeral
import Gamebook.Web.Host

namespace Gamebook

-- The parts of an address on the web in canonical form.
@[ext]
structure Url where
  scheme   : String
  userinfo : String
  host     : String
  port     : Option Int
  path     : String
  query    : Option String
  fragment : Option String
deriving DecidableEq, Repr

namespace Url

-- Why a text is no address.
inductive Problem
  | tooLong
  | unprintable (c : Char) (offset : Nat)
  | host (p : Host.Problem)
  | port (text : String)
  | slashes
  | colon
deriving DecidableEq, Repr

def Problem.message : Problem → String
  | tooLong         => "URL too long"
  | unprintable c i =>
    "Invalid non-printable ASCII character in URL, " ++ Text.quoted (String.ofList [c]) ++
      " at position " ++ Scalar.intText i ++ "."
  | host (.ipv4 h)  => "Invalid IPv4 address: " ++ Text.quoted h
  | host (.ipv6 h)  => "Invalid IPv6 address: " ++ Text.quoted h
  | host (.name h)  => "Invalid IDNA hostname: " ++ Text.quoted h
  | port p          => "Invalid port: " ++ Text.quoted p
  | slashes         => "Relative URLs cannot have a path starting with '//'"
  | colon           => "Relative URLs cannot have a path starting with ':'"

def lengthLimit : Nat := 65536

def isControl (c : Char) : Bool :=
  c.toNat < 0x20 || c.toNat = 0x7f

def isSchemeChar (c : Char) : Bool :=
  c.isAlphanum || c = '+' || c = '.' || c = '-'

-- What stands before the first colon, if it can be a scheme, and the rest.
def splitScheme (cs : List Char) : List Char × List Char :=
  let s := cs.takeWhile isSchemeChar
  match cs.dropWhile isSchemeChar with
  | ':' :: rest => if s.isEmpty || s.head?.any Char.isAlpha then (s, rest) else ([], cs)
  | _           => ([], cs)

def splitAuthority : List Char → List Char × List Char
  | '/' :: '/' :: cs =>
    let ends (c : Char) : Bool := c = '/' || c = '?' || c = '#'
    (cs.takeWhile (!ends ·), cs.dropWhile (!ends ·))
  | cs => ([], cs)

-- The part of a text before a mark, and what follows it if it is there.
def cut (mark : Char) (cs : List Char) : List Char × Option (List Char) :=
  match cs.dropWhile (· ≠ mark) with
  | []        => (cs, none)
  | _ :: rest => (cs.takeWhile (· ≠ mark), some rest)

-- Everything before the last at sign names a user.
def splitUser (cs : List Char) : List Char × List Char :=
  match cs.reverse.dropWhile (· ≠ '@') with
  | []        => ([], cs)
  | _ :: user => (user.reverse, (cs.reverse.takeWhile (· ≠ '@')).reverse)

-- A host in brackets extends to the last closing one, any other to the first colon.
def splitHost (cs : List Char) : List Char × List Char :=
  let (host, rest) :=
    if cs.head? = some '[' && cs.contains ']' then
      ((cs.reverse.dropWhile (· ≠ ']')).reverse, (cs.reverse.takeWhile (· ≠ ']')).reverse)
    else (cs.takeWhile (· ≠ ':'), cs.dropWhile (· ≠ ':'))
  (host, if rest.head? = some ':' then rest.tail else rest)

def defaultPort? (scheme : String) : Option Int :=
  match scheme with
  | "ftp"   => some 21
  | "http"  => some 80
  | "https" => some 443
  | "ws"    => some 80
  | "wss"   => some 443
  | _       => none

-- A port that a scheme has anyway is not told.
def readPort (scheme : String) (cs : List Char) : Except Problem (Option Int) :=
  let s := String.ofList cs
  if cs.isEmpty then .ok none
  else match Numeral.int? s with
    | some n => .ok (if defaultPort? scheme = some n then none else some n)
    | none   => .error (.port s)

-- Points are resolved: one stays, two go up, but not above the root.
def resolve (path : List Char) : List Char :=
  let parts := path.splitOn '/'
  if parts.contains ['.'] || parts.contains ['.', '.'] then
    List.intercalate ['/'] (parts.foldl step [])
  else path
where
  step (out : List (List Char)) (part : List Char) : List (List Char) :=
    if part = ['.'] then out
    else if part = ['.', '.'] then if out = [[]] then out else out.dropLast
    else out ++ [part]

-- The characters of each part that stand for themselves.

def isFragmentChar (c : Char) : Bool :=
  let n := c.toNat
  0x20 < n && n < 0x7f && c ≠ Text.quotation && c ≠ '<' && c ≠ '>' && n ≠ 0x60

def isQueryChar (c : Char) : Bool :=
  let n := c.toNat
  0x20 < n && n < 0x7f && c ≠ Text.quotation && c ≠ '<' && c ≠ '>' && c ≠ '#'

def isPathChar (c : Char) : Bool :=
  isQueryChar c && c ≠ '?' && c ≠ '\x60' && c ≠ '\x7b' && c ≠ '\x7d'

def isUserChar (c : Char) : Bool :=
  isPathChar c && !"/;=@[\\]^|".toList.contains c

def encode (safe : Char → Bool) (cs : List Char) : String :=
  String.ofList (Percent.encode safe cs)

-- What is wrong with the path of an address without scheme and host.
def pathProblem? : List Char → Option Problem
  | '/' :: '/' :: _ => some .slashes
  | ':' :: _        => some .colon
  | _               => none

def ofChars (cs : List Char) : Except Problem Url := do
  let (scheme, cs) := splitScheme cs
  let (authority, cs) := splitAuthority cs
  let (cs, fragment) := cut '#' cs
  let (path, query) := cut '?' cs
  let (user, authority) := splitUser authority
  let (hostChars, portChars) := splitHost authority
  let host ← (Host.ofChars hostChars).mapError .host
  let port ← readPort (String.ofList scheme) portChars
  let isBare := scheme.isEmpty && user.isEmpty && host.isEmpty && port.isNone
  match if isBare then pathProblem? path else none with
  | some p => .error p
  | none   => .ok {
      scheme   := String.ofList (scheme.map Char.toLower)
      userinfo := encode isUserChar user
      host     := String.ofList host
      port
      path     := encode isPathChar (if isBare then path else resolve path)
      query    := query.map (encode isQueryChar)
      fragment := fragment.map (encode isFragmentChar)
    }

def parse (s : String) : Except Problem Url :=
  let cs := s.toList
  if lengthLimit < cs.length then .error .tooLong
  else match cs.zipIdx.find? (isControl ·.1) with
    | some (c, i) => .error (.unprintable c i)
    | none        => ofChars cs

def authority (u : Url) : String :=
  (if u.userinfo = "" then "" else u.userinfo ++ "@") ++
    (if u.host.toList.contains ':' then "[" ++ u.host ++ "]" else u.host) ++
    u.port.elim "" fun p => ":" ++ Scalar.intText p

def text (u : Url) : String :=
  (if u.scheme = "" then "" else u.scheme ++ ":") ++
    (if u.authority = "" then "" else "//" ++ u.authority) ++ u.path ++
    (u.query.elim "" ("?" ++ ·)) ++ u.fragment.elim "" ("#" ++ ·)

-- An address is relative unless it has both a scheme and a host.
def isRelative (u : Url) : Bool :=
  u.scheme = "" || u.host = ""

end Url
end Gamebook
