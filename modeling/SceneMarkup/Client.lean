import SceneMarkup.Http.Coding
import SceneMarkup.Http.Percent
import SceneMarkup.Server.Backend
import SceneMarkup.Url.Reading

/-! # A client

How a call is made: its address is read, the backend is asked, and the codings of its answer are
undone. The backend may send its caller elsewhere. The client does not go there, but an answer that
names no place to go to is no answer.
-/

namespace SceneMarkup.Client

open Server (Call Answer)

inductive Reply where
  | answer (status : Int) (headers : List (String × String)) (body : Http.Bytes)
  | failure (failure : Log.Failure)
  deriving DecidableEq, Repr

def isAscii (s : String) : Bool := s.toList.all (·.toNat < 128)

/-! ### Failures -/

/-- Headers or a host hold characters that cannot be sent. -/
def unsendable : Log.Failure := .ofArgument "UnicodeEncodeError" none

def invalidAddress (problem : Url.Problem) : Log.Failure :=
  .ofArgument "InvalidURL" (some problem.message)

def invalidHost : DomainName.Problem → Log.Failure
  | .form => .ofArgument "IDNAError" none
  | .character => .ofArgument "InvalidCodepoint" none
  | .context => .ofArgument "InvalidCodepointContext" none
  | .direction => .ofArgument "IDNABidiError" none

/-- The address says what is asked for, but not of whom. -/
def noHost (target : String) : Log.Failure :=
  .ofArgument "ValueError" (some ("unknown url type: " ++ Text.Quoted.text target))

def lostRedirect (problem : Url.Problem) : Log.Failure :=
  .ofArgument "RemoteProtocolError"
    (some ("Invalid URL in location header: " ++ problem.message ++ "."))

/-! ### Redirects -/

def readableHost (u : Url) : Except Log.Failure String := u.hostName.mapError invalidHost

/-- Give the host of a call to a location that has a scheme but no host. -/
def completed (caller location : Url) : Except Log.Failure Url := do
  if location.scheme.isEmpty then return location
  else if !(← readableHost location).isEmpty then return location
  else (location.withHost (← readableHost caller)).mapError invalidAddress

def fragmentOf (u : Url) : String := Http.Percent.decode (u.fragment.getD "")

/-- A location without a fragment takes that of the call. -/
def checkFragment (caller location : Url) : Except Log.Failure Unit :=
  if !(fragmentOf location).isEmpty then .ok ()
  else if (fragmentOf caller).isEmpty then .ok ()
  else match Url.checkControls (fragmentOf caller).toList, location.checkLengths with
    | .ok (), .ok () => .ok ()
    | .error problem, _ | _, .error problem => .error (invalidAddress problem)

/-- Check the place that a call is sent to. Without a host it lies on the host of the call. -/
def checkRedirect (caller : Url) (location : String) : Except Log.Failure Unit :=
  match Url.ofText location with
  | .error problem => .error (lostRedirect problem)
  | .ok location => do
      let location ← completed caller location
      checkFragment caller location
      let reached := if location.host.isEmpty then caller else location
      let _ ← readableHost reached
      let _ ← readableHost caller
      if !isAscii reached.host then throw unsendable

def isRedirect (status : Int) : Bool := [301, 302, 303, 307, 308].contains status

/-! ### Calls -/

def areSendable (headers : List (String × String)) : Bool :=
  headers.all fun h => isAscii h.1 && isAscii h.2

/-- The address of a call: an absolute one, or what it asks for below a root. -/
def addressOf? (c : Call) : Except Url.Problem Url := do
  let address ← Url.ofText c.url
  if address.isAbsolute then return address else address.relative

def addressOf (c : Call) : Except Log.Failure Url :=
  match addressOf? c with
  | .error problem => .error (invalidAddress problem)
  | .ok address =>
      if areSendable c.headers && isAscii address.host then .ok address else .error unsendable

def received (address : Url) (status : Int) (headers : List (String × String))
    (body : Http.Bytes) : Except Log.Failure Answer := do
  if !areSendable headers then throw unsendable
  match Http.Coding.content headers body with
  | .error flaw => throw (.ofArgument "DecodingError" (some flaw.message))
  | .ok content =>
      if !address.isAbsolute then throw (noHost address.target)
      match Http.headerOf? headers "location" with
      | some location => if isRedirect status then checkRedirect address location
      | none => pure ()
      return ⟨status, Http.headerOf? headers "content-type", content⟩

def call (backend : Call → Reply) (c : Call) : Except Log.Failure Answer := do
  let address ← addressOf c
  match backend c with
  | .answer status headers body => received address status headers body
  | .failure failure => throw failure

end SceneMarkup.Client
