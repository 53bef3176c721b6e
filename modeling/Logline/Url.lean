import Logline.Url.Host
/-!
Addresses on the web: whether a text is an absolute one, and its scheme. Only the scheme, the host
and the port can make a text invalid; path, query and fragment take every character.
-/
namespace Logline.Url

/-- Whether a scheme names servers, and whether it names files. -/
inductive SchemeKind where
  | server | file | other
  deriving DecidableEq, Repr

def SchemeKind.of (scheme : List Char) : SchemeKind :=
  let name := String.ofList scheme
  if name = "file" then .file
  else if ["http", "https", "ws", "wss", "ftp"].contains name then .server
  else .other

/-- Text without the controls and blanks at its ends, and without tabs and line breaks inside. -/
def clean (cs : List Char) : List Char :=
  let strip (cs : List Char) : List Char := cs.dropWhile (· ≤ ' ')
  (strip (strip cs).reverse).reverse.filter fun c => c != '\t' && c != '\n' && c != '\r'

/-- Scheme in small letters and what follows its colon; it begins with a letter. -/
def cutScheme? (cs : List Char) : Option (List Char × List Char) := do
  let (scheme, rest) ← Text.cut? ':' cs
  if scheme.head?.any Char.isAlpha
      && scheme.all fun c => c.isAlphanum || c == '+' || c == '-' || c == '.'
  then some (Text.lowerAscii scheme, rest)
  else none

def isSlash (c : Char) : Bool := c == '/' || c == '\\'

/-- Whether a character ends the part of an address that names its host. -/
def endsAuthority (kind : SchemeKind) (c : Char) : Bool :=
  c == '/' || c == '?' || c == '#' || (c == '\\' && kind != .other)

/-- Host up to its port; a colon in brackets belongs to the host. -/
def splitPort (inBrackets : Bool) : List Char → List Char × List Char
  | [] => ([], [])
  | c :: cs =>
    if c = ':' ∧ inBrackets = false then ([], c :: cs)
    else
      let inBrackets := c == '[' || (c != ']' && inBrackets)
      let (host, port) := splitPort inBrackets cs
      (c :: host, port)

/-- Port behind the host; none is given by a colon alone. -/
def isPort (cs : List Char) : Bool :=
  match cs with
  | [] => true
  | _ :: digits => digits.all Char.isDigit && Decimal.value digits < 0x10000

/-- User in front of the last at sign, and what follows it. -/
def cutUser (cs : List Char) : Option (List Char) × List Char :=
  match cs.reverse.dropWhile (· != '@') with
  | [] => (none, cs)
  | _ :: user => (some user.reverse, (cs.reverse.takeWhile (· != '@')).reverse)

/-- Port of an address whose scheme names no servers; a backslash ends it like a slash. -/
def untilBackslash (cs : List Char) : List Char :=
  cs.takeWhile (· != '\\')

/-- Whether no host is needed beside a user: there is none, or neither a name nor a password. An at
sign alone has to end the text. -/
def isNobody (atEnd : Bool) : Option (List Char) → Bool
  | none => true
  | some [] => atEnd
  | some user => user = [':']

/-- User, host and port. Only where no server has to be named may the host be empty, and then
neither a user nor a port stands beside it. -/
def isAuthority (kind : SchemeKind) (cs : List Char) : Bool :=
  let authority := cs.takeWhile (!endsAuthority kind ·)
  let (user, rest) := cutUser authority
  let (host, port) := splitPort false rest
  if kind = .other then
    if host = [] then isNobody (authority.length == cs.length) user && port = []
    else isOpaqueHost host && isPort (untilBackslash port)
  else isHost host && isPort port

/-- A letter and a colon or bar name a drive, not a host. -/
def isDrive : List Char → Bool
  | [a, b] => a.isAlpha && (b == ':' || b == '|')
  | _ => false

/-- What follows the colon of a scheme. -/
def isAfterScheme (kind : SchemeKind) (cs : List Char) : Bool :=
  match kind, cs with
  | .server, cs => isAuthority .server (cs.dropWhile isSlash)
  | .file, a :: b :: cs =>
    if isSlash a && isSlash b then
      let host := cs.takeWhile (!endsAuthority .file ·)
      host = [] || isDrive host || isHost host
    else true
  | .file, _ => true
  | .other, '/' :: '/' :: cs => isAuthority .other cs
  | .other, _ => true

/-- Scheme of an absolute address; none if the text is not one. -/
def scheme? (cs : List Char) : Option (List Char) := do
  let (scheme, rest) ← cutScheme? (clean cs)
  if isAfterScheme (.of scheme) rest then some scheme else none

end Logline.Url
