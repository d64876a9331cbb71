import SceneMarkup.Http.Response
import SceneMarkup.Log.Record

/-! # Backend calls

A request that the server does not answer itself is passed on: with its method, its body and all
headers but those that concern a single connection.
-/

namespace SceneMarkup.Server

structure Request where
  method : String
  path : String
  query : String
  headers : List (String × String)
  /-- The messages of the body: their bytes, and whether more follow. -/
  messages : List (Http.Bytes × Bool)
  deriving DecidableEq, Repr

def bodyOf : List (Http.Bytes × Bool) → Http.Bytes
  | [] => []
  | (bytes, more) :: rest => if more then bytes ++ bodyOf rest else bytes

def hopByHopHeaders : List String :=
  ["host", "connection", "keep-alive", "transfer-encoding", "upgrade"]

def isHopByHop (name : String) : Bool := hopByHopHeaders.contains (Text.lower name)

/-- The headers that are passed on. Of equal names the last value counts. -/
def forwarded (headers : List (String × String)) : Entries String :=
  Entries.ofList (headers.filter fun h => !isHopByHop h.1)

structure Call where
  method : String
  url : String
  headers : Entries String
  content : Http.Bytes
  deriving DecidableEq, Repr

def Call.ofRequest (backend : String) (r : Request) : Call where
  method := r.method
  url := backend ++ r.path ++ (if r.query.isEmpty then "" else "?" ++ r.query)
  headers := forwarded r.headers
  content := bodyOf r.messages

/-- What comes back of a call: a status, the media type if one is said, and the content. -/
structure Answer where
  status : Int
  mediaType : Option String
  content : Http.Bytes
  deriving DecidableEq, Repr

/-- The machine that the server runs on. -/
structure Host where
  /-- The media types that it knows. -/
  types : Http.MediaType.Table
  /-- How it makes a call: what comes back, or why nothing does. -/
  client : Call → Except Log.Failure Answer

/-- The kinds of failures of a connection, which a client is told about. Others are faults of the
server itself. -/
def gatewayFailures : List String :=
  ["HTTPError", "RequestError", "TransportError", "TimeoutException", "ConnectTimeout",
    "ReadTimeout", "WriteTimeout", "PoolTimeout", "NetworkError", "ConnectError", "ReadError",
    "WriteError", "CloseError", "ProxyError", "UnsupportedProtocol", "ProtocolError",
    "LocalProtocolError", "RemoteProtocolError", "DecodingError", "TooManyRedirects",
    "HTTPStatusError"]

def Answer.relayed (a : Answer) : Http.Response :=
  .ofContent .plain (.bytes a.content) a.status [] (a.mediaType.getD Http.MediaType.fallback)

end SceneMarkup.Server
