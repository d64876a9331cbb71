import SceneMarkup.DomainName.Basic
import SceneMarkup.Number.Literal
import SceneMarkup.Url.Basic
import SceneMarkup.Url.Numeric

/-! # Reading addresses

An address is cut into its parts, every one of which may be missing but the path. Then the parts
are checked and escaped.
-/

namespace SceneMarkup.Url

open Text

section Cutting

structure Parts where
  scheme : List Char
  authority : List Char
  path : List Char
  query : Option (List Char)
  fragment : Option (List Char)

def isSchemeChar (c : Char) : Bool := c.isAlphanum || c == '+' || c == '.' || c == '-'

/-- The scheme, which a colon ends; it may be empty. -/
def cutScheme (cs : List Char) : List Char × List Char :=
  let scheme := cs.takeWhile isSchemeChar
  match cs.dropWhile isSchemeChar with
  | ':' :: rest => if scheme.head?.all Char.isAlpha then (scheme, rest) else ([], cs)
  | _ => ([], cs)

def cutAuthority : List Char → List Char × List Char
  | '/' :: '/' :: rest => rest.span fun c => c != '/' && c != '?' && c != '#'
  | cs => ([], cs)

def cutMarked (mark : Char) (ends : Char → Bool) : List Char → Option (List Char) × List Char
  | c :: rest =>
      if c = mark then
        let (part, rest) := rest.span (!ends ·)
        (some part, rest)
      else (none, c :: rest)
  | [] => (none, [])

def cut (cs : List Char) : Parts :=
  let (scheme, rest) := cutScheme cs
  let (authority, rest) := cutAuthority rest
  let (path, rest) := rest.span fun c => c != '?' && c != '#'
  let (query, rest) := cutMarked '?' (· == '#') rest
  let (fragment, _) := cutMarked '#' (fun _ => false) rest
  ⟨scheme, authority, path, query, fragment⟩

/-- A list before and behind the last element with a property; nothing is before it if there is
none. -/
def splitLast (p : Char → Bool) (cs : List Char) : List Char × List Char :=
  let after := (cs.reverse.takeWhile (!p ·)).reverse
  (cs.take (cs.length - after.length - 1), after)

/-- The user, which the last at sign ends, the host, which may be in brackets, and the port. -/
def cutAuthorityParts (cs : List Char) : List Char × List Char × List Char :=
  let (user, rest) := splitLast (· == '@') cs
  let (host, rest) :=
    if rest.head? == some '[' && rest.contains ']' then
      let (inner, after) := splitLast (· == ']') rest
      (inner ++ [']'], after)
    else rest.span (· != ':')
  (user, host, if rest.head? == some ':' then rest.drop 1 else rest)

end Cutting

section Checking

def readHost (cs : List Char) : Except Problem String := do
  let shown := String.ofList cs
  if cs.isEmpty then return ""
  if looksNumeric cs then
    if isFourNumbers cs then return shown else throw (.fourNumbers shown)
  if cs.head? == some '[' && cs.getLast? == some ']' then
    let inner := (cs.drop 1).dropLast
    if isEightGroups inner then return String.ofList inner else throw (.eightGroups shown)
  if DomainName.isAscii cs then
    return String.ofList (escape standsInHost (cs.map Char.toLower))
  match DomainName.toAscii (Text.lower shown).toList with
  | .ok form => return String.ofList form
  | .error _ => throw (.hostName shown)

def usualPorts : List (String × Int) :=
  [("ftp", 21), ("http", 80), ("https", 443), ("ws", 80), ("wss", 443)]

def readPort (scheme : String) (cs : List Char) : Except Problem (Option Int) :=
  if cs.isEmpty then .ok none
  else match Number.readInt (String.ofList cs) with
    | some n => .ok (if usualPorts.lookup scheme = some n then none else some n)
    | none => .error (.tcpPort (String.ofList cs))

/-- A path without its single dots; two dots take the step before them away. -/
def normalPath (path : List Char) : List Char :=
  let takenRev := (splitOnP (· == '/') path).foldl (fun taken step =>
    if step = ['.'] then taken
    else if step = ['.', '.'] then (if taken = [[]] then taken else taken.drop 1)
    else step :: taken) []
  join ['/'] takenRev.reverse

def checkPath (u : Url) : Except Problem Unit :=
  let path := u.path.toList
  if u.hasAuthority && !path.isEmpty && path.head? != some '/' then .error .unrooted
  else if u.hasAuthority || !u.scheme.isEmpty then .ok ()
  else if ['/', '/'].isPrefixOf path then .error .doubleSlash
  else if path.head? == some ':' then .error .leadingColon
  else .ok ()

def maxLength : Nat := 65536

def isControl (c : Char) : Bool := c.toNat < 0x20 || c.toNat == 0x7F

def checkControls (cs : List Char) : Except Problem Unit :=
  match cs.findIdx? isControl, cs.find? isControl with
  | some i, some c => .error (.control c i)
  | _, _ => .ok ()

def ofText (s : String) : Except Problem Url := do
  let cs := s.toList
  if cs.length > maxLength then throw .tooLong
  checkControls cs
  let parts := cut cs
  let (user, host, tcpPort) := cutAuthorityParts parts.authority
  let scheme := String.ofList (parts.scheme.map Char.toLower)
  let written (stands : Char → Bool) (part : List Char) : String :=
    String.ofList (escape stands part)
  let u : Url :=
    { scheme := scheme
      user := written standsInUser user
      host := (← readHost host)
      tcpPort := (← readPort scheme tcpPort)
      path := String.ofList parts.path
      query := parts.query.map (written standsInQuery)
      fragment := parts.fragment.map (written standsInFragment) }
  checkPath u
  let path := if u.hasAuthority || !u.scheme.isEmpty then normalPath parts.path else parts.path
  return { u with path := written standsInPath path }

/-- Escapes may make a part of an address longer than an address can be; it cannot be put together
with others then. -/
def checkLengths (u : Url) : Except Problem Unit :=
  if [some u.path, u.query, u.fragment].any fun part => part.any (·.length > maxLength) then
    .error .tooLong
  else .ok ()

def withHost (u : Url) (host : String) : Except Problem Url := do
  checkLengths u
  let cs := host.toList
  let u := { u with host := (← readHost (if cs.contains ':' then '[' :: cs ++ [']'] else cs)) }
  checkPath u
  return u

/-- What an address asks for, below a root and without a host. -/
def relative (u : Url) : Except Problem Url := do
  let path := String.ofList ('/' :: u.path.toList.dropWhile (· == '/'))
  let u : Url := ⟨"", "", "", none, path, u.query, none⟩
  checkLengths u
  return u

/-- The name of the host as it is read: a name that starts in ASCII form is carried back. -/
def hostName (u : Url) : Except DomainName.Problem String :=
  if DomainName.asciiMark.isPrefixOf u.host.toList then
    (DomainName.ofAscii u.host.toList).map String.ofList
  else .ok u.host

end Checking

end SceneMarkup.Url
