import SceneMarkup.Text.Quoted

/-! # Addresses

An address says how to reach something: by which scheme, at which host, and what to ask for there.
-/

namespace SceneMarkup

/-- An address. Its texts are escaped; the host is in ASCII form. -/
structure Url where
  scheme : String
  user : String
  host : String
  tcpPort : Option Int
  path : String
  query : Option String
  fragment : Option String
  deriving DecidableEq, Repr

namespace Url

inductive Problem where
  | tooLong
  | control (c : Char) (position : Nat)
  | fourNumbers (host : String)
  | eightGroups (host : String)
  | hostName (host : String)
  | tcpPort (text : String)
  | unrooted
  | doubleSlash
  | leadingColon
  deriving DecidableEq, Repr

def Problem.message : Problem → String
  | tooLong => "URL too long"
  | control c position =>
      "Invalid non-printable ASCII character in URL, " ++ Text.Quoted.text (String.singleton c) ++
        " at position " ++ toString position ++ "."
  | fourNumbers host => "Invalid IPv4 address: " ++ Text.Quoted.text host
  | eightGroups host => "Invalid IPv6 address: " ++ Text.Quoted.text host
  | hostName host => "Invalid IDNA hostname: " ++ Text.Quoted.text host
  | tcpPort text => "Invalid port: " ++ Text.Quoted.text text
  | unrooted => "For absolute URLs, path must be empty or begin with '/'"
  | doubleSlash => "Relative URLs cannot have a path starting with '//'"
  | leadingColon => "Relative URLs cannot have a path starting with ':'"

def isAbsolute (u : Url) : Bool := !u.scheme.isEmpty && !u.host.isEmpty

def hasAuthority (u : Url) : Bool := !u.user.isEmpty || !u.host.isEmpty || u.tcpPort.isSome

def target (u : Url) : String := u.path ++ ((u.query.map ("?" ++ ·)).getD "")

end Url

end SceneMarkup
