import Playbook.Number.Numeral
import Playbook.Text.Lower
import Playbook.Web.Address
import Playbook.Web.Domain
import Playbook.Web.Quoting
/-!
# Addresses of servers

The parts of an address in the form in which requests carry them: quoted where they have to be, the host in ASCII,
without steps in the path that lead back, and without a port that goes without saying.
-/

namespace Playbook.Web

structure Url where
  scheme : List Char
  userinfo : List Char
  host : List Char
  port : Option Int
  path : List Char
  query : Option (List Char)
  fragment : Option (List Char)
deriving Repr, DecidableEq

inductive UrlFault where
  | tooLong
  | partTooLong (part : String)
  | unprintable (c : Char) (position : Nat)
  | badPort (text : String)
  | badFourNumbers (host : String)
  | badEightNumbers (host : String)
  | badDomain (host : String)
  | pathAfterHost
  | startsWithSlashes
  | startsWithColon
deriving Repr, DecidableEq

def UrlFault.message : UrlFault → String
  | tooLong => "URL too long"
  | partTooLong part => s!"URL component '{part}' too long"
  | unprintable c position =>
    let shown := Text.quoted (String.ofList [c])
    s!"Invalid non-printable ASCII character in URL, {shown} at position {position}."
  | badPort text => s!"Invalid port: {Text.quoted text}"
  | badFourNumbers host => s!"Invalid IPv4 address: {Text.quoted host}"
  | badEightNumbers host => s!"Invalid IPv6 address: {Text.quoted host}"
  | badDomain host => s!"Invalid IDNA hostname: {Text.quoted host}"
  | pathAfterHost => "For absolute URLs, path must be empty or begin with '/'"
  | startsWithSlashes => "Relative URLs cannot have a path starting with '//'"
  | startsWithColon => "Relative URLs cannot have a path starting with ':'"

namespace Url

/-! ### The parts as they are written -/

structure Parts where
  scheme : List Char
  authority : List Char
  path : List Char
  query : Option (List Char)
  fragment : Option (List Char)

def isSchemeChar (c : Char) : Bool := c.isAlphanum || c == '+' || c == '-' || c == '.'

/-- The scheme in front of the first colon, and what follows; a colon alone counts too. -/
def splitScheme (cs : List Char) : List Char × List Char :=
  let name := cs.takeWhile isSchemeChar
  match cs.drop name.length with
  | ':' :: rest => if name.head?.all Char.isAlpha then (name, rest) else ([], cs)
  | _ => ([], cs)

/-- The text from behind a mark on, if it starts with the mark. -/
def behind? (mark : Char) : List Char → Option (List Char)
  | [] => none
  | c :: cs => if c = mark then some cs else none

def split (cs : List Char) : Parts :=
  let (scheme, cs) := splitScheme cs
  let (authority, cs) : List Char × List Char := match cs with
    | '/' :: '/' :: cs => cs.span fun c => c ≠ '/' && c ≠ '?' && c ≠ '#'
    | cs => ([], cs)
  let (path, cs) := cs.span fun c => c ≠ '?' && c ≠ '#'
  let tail := cs.dropWhile (· ≠ '#')
  ⟨scheme, authority, path, behind? '?' (cs.takeWhile (· ≠ '#')), behind? '#' tail⟩

/-- User, host and port. The last at sign ends the user, and brackets keep the colons of a host together. -/
def splitAuthority (cs : List Char) : List Char × List Char × List Char :=
  let back := cs.reverse
  let place := (back.takeWhile (· ≠ '@')).reverse
  let user := ((back.drop place.length).drop 1).reverse
  let inBrackets := ((place.reverse).dropWhile (· ≠ ']')).reverse
  let host := if place.head? = some '[' ∧ !inBrackets.isEmpty then inBrackets else place.takeWhile (· ≠ ':')
  let rest := place.drop host.length
  (user, host, (behind? ':' rest).getD rest)

/-! ### Safe characters -/

def isPrintableAscii (c : Char) : Bool := 0x20 ≤ c.toNat && c.toNat < 0x7f

def isSafeInFragment (c : Char) : Bool := isPrintableAscii c && !" \"<>`".toList.contains c

def isSafeInQuery (c : Char) : Bool := isPrintableAscii c && !" \"#<>".toList.contains c

def isSafeInPath (c : Char) : Bool := isPrintableAscii c && !" \"#<>?`\x7b\x7d".toList.contains c

def isSafeInUser (c : Char) : Bool := isSafeInPath c && !"/;=@[\\]^|".toList.contains c

def isSafeInHost (c : Char) : Bool := c.isAlphanum || "-._~!$&'()*+,;=\"`\x7b\x7d%|\\".toList.contains c

/-! ### Parts in their final form -/

def hostOf (cs : List Char) : Except UrlFault (List Char) :=
  let text := String.ofList cs
  let inside := (cs.drop 1).dropLast
  if Address.looksLikeFour cs then if Address.isFour cs then .ok cs else .error (.badFourNumbers text)
  else if cs.head? = some '[' ∧ cs.getLast? = some ']' ∧ 2 ≤ cs.length then
    if Address.isZoned inside then .ok inside else .error (.badEightNumbers text)
  else if Domain.isAscii cs then .ok (quoteUnless isSafeInHost (Text.lower cs))
  else (Domain.ascii (Text.lower cs)).elim (.error (.badDomain text)) .ok

/-- The ports that go without saying. -/
def standardPorts : List (String × Int) := [("ftp", 21), ("http", 80), ("https", 443), ("ws", 80), ("wss", 443)]

def portOf (scheme cs : List Char) : Except UrlFault (Option Int) :=
  if cs.isEmpty then .ok none
  else match Number.integer 10 cs with
    | .ok n => .ok (if standardPorts.lookup (String.ofList scheme) = some n then none else some n)
    | .error _ => .error (.badPort (String.ofList cs))

/-- Leaves out steps that stay in place, and steps back with the ones that they take back. -/
def stepsOf (steps : List (List Char)) : List (List Char) :=
  (steps.foldl (fun back step =>
    if step = ['.'] then back
    else if step = ['.', '.'] then if back = [[]] then back else back.drop 1
    else step :: back) []).reverse

def plainPath (cs : List Char) : List Char := ['/'].intercalate (stepsOf (cs.splitOn '/'))

def checkPath (hasScheme hasAuthority : Bool) (cs : List Char) : Except UrlFault Unit :=
  if hasAuthority then if cs.isEmpty ∨ cs.head? = some '/' then .ok () else .error .pathAfterHost
  else if hasScheme then .ok ()
  else if cs.take 2 = ['/', '/'] then .error .startsWithSlashes
  else if cs.head? = some ':' then .error .startsWithColon
  else .ok ()

def ofParts (p : Parts) : Except UrlFault Url := do
  let (user, host, port) := splitAuthority p.authority
  let scheme := Text.lower p.scheme
  let user := quoteUnless isSafeInUser user
  let host ← hostOf host
  let port ← portOf p.scheme port
  let hasAuthority := !user.isEmpty || !host.isEmpty || port.isSome
  checkPath (!scheme.isEmpty) hasAuthority p.path
  let path := if !scheme.isEmpty || hasAuthority then plainPath p.path else p.path
  return ⟨scheme, user, host, port, quoteUnless isSafeInPath path, p.query.map (quoteUnless isSafeInQuery),
    p.fragment.map (quoteUnless isSafeInFragment)⟩

/-- The longest address, and the longest part of one. -/
def lengthLimit : Nat := 65536

def parse (cs : List Char) : Except UrlFault Url :=
  if lengthLimit < cs.length then .error .tooLong
  else match cs.findIdx? fun c => c.toNat < 0x20 || c.toNat = 0x7f with
    | some i => .error (.unprintable (cs.getD i ' ') i)
    | none => ofParts (split cs)

/-! ### Addresses as texts -/

def authority (u : Url) : List Char :=
  let host := if u.host.contains ':' then '[' :: u.host ++ [']'] else u.host
  let port := (u.port.map fun n => ':' :: (toString n).toList).getD []
  (if u.userinfo.isEmpty then [] else u.userinfo ++ ['@']) ++ host ++ port

def marked (mark : Char) (part : Option (List Char)) : List Char := (part.map (mark :: ·)).getD []

/-- Path and query, which a request asks for. -/
def target (u : Url) : List Char := (if u.path.isEmpty then ['/'] else u.path) ++ marked '?' u.query

def text (u : Url) : String :=
  String.ofList ((if u.scheme.isEmpty then [] else u.scheme ++ [':'])
    ++ (if u.authority.isEmpty then [] else '/' :: '/' :: u.authority) ++ u.path ++ marked '?' u.query
    ++ marked '#' u.fragment)

/-! ### Changing addresses -/

def checkLengths (parts : List (String × List Char)) : Except UrlFault Unit :=
  match parts.find? fun (_, cs) => lengthLimit < cs.length with
  | some (part, _) => .error (.partTooLong part)
  | none => .ok ()

/-- The same address with another path and query. -/
def withTarget (u : Url) (cs : List Char) : Except UrlFault Url := do
  let (path, rest) := cs.span (· ≠ '?')
  let query := behind? '?' rest
  checkLengths [("scheme", u.scheme), ("authority", u.authority), ("path", path), ("query", query.getD []),
    ("fragment", u.fragment.getD [])]
  ofParts ⟨u.scheme, u.authority, path, query, u.fragment⟩

/-- The address that others go on from: a slash ends it. -/
def asBase (u : Url) : Except UrlFault Url :=
  if u.target.getLast? = some '/' then .ok u else u.withTarget (u.target ++ ['/'])

/-- Goes on from a base. -/
def append (u : Url) (cs : List Char) : Except UrlFault Url := u.withTarget (u.target ++ cs)

/-! ### Users -/

/-- The name and the password in an address, if it holds either. -/
def credentials? (u : Url) : Option (List Char × List Char) :=
  let (name, rest) := u.userinfo.span (· ≠ ':')
  let name := unquote name
  let password := unquote (rest.drop 1)
  if name.isEmpty && password.isEmpty then none else some (name, password)

end Url

end Playbook.Web
