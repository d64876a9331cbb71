import SceneMarkup.Disk.Basic
import SceneMarkup.Http.MediaType
import SceneMarkup.Value.Basic

/-! # Responses

A response is a status, headers and a body, which is sent whole or, for a file, in pieces.
-/

namespace SceneMarkup.Http.Status

def phrases : List (Int × String) := [
  (100, "Continue"), (101, "Switching Protocols"), (102, "Processing"), (103, "Early Hints"),
  (200, "OK"), (201, "Created"), (202, "Accepted"), (203, "Non-Authoritative Information"),
  (204, "No Content"), (205, "Reset Content"), (206, "Partial Content"), (207, "Multi-Status"),
  (208, "Already Reported"), (226, "IM Used"), (300, "Multiple Choices"),
  (301, "Moved Permanently"), (302, "Found"), (303, "See Other"), (304, "Not Modified"),
  (305, "Use Proxy"), (307, "Temporary Redirect"), (308, "Permanent Redirect"),
  (400, "Bad Request"), (401, "Unauthorized"), (402, "Payment Required"), (403, "Forbidden"),
  (404, "Not Found"), (405, "Method Not Allowed"), (406, "Not Acceptable"),
  (407, "Proxy Authentication Required"), (408, "Request Timeout"), (409, "Conflict"),
  (410, "Gone"), (411, "Length Required"), (412, "Precondition Failed"),
  (413, "Request Entity Too Large"), (414, "Request-URI Too Long"),
  (415, "Unsupported Media Type"), (416, "Requested Range Not Satisfiable"),
  (417, "Expectation Failed"), (418, "I'm a Teapot"), (421, "Misdirected Request"),
  (422, "Unprocessable Entity"), (423, "Locked"), (424, "Failed Dependency"), (425, "Too Early"),
  (426, "Upgrade Required"), (428, "Precondition Required"), (429, "Too Many Requests"),
  (431, "Request Header Fields Too Large"), (451, "Unavailable For Legal Reasons"),
  (500, "Internal Server Error"), (501, "Not Implemented"), (502, "Bad Gateway"),
  (503, "Service Unavailable"), (504, "Gateway Timeout"), (505, "HTTP Version Not Supported"),
  (506, "Variant Also Negotiates"), (507, "Insufficient Storage"), (508, "Loop Detected"),
  (510, "Not Extended"), (511, "Network Authentication Required")]

/-- The phrase of a status code; unknown codes share one. -/
def phrase (code : Int) : String := (phrases.lookup code).getD "Error"

end SceneMarkup.Http.Status

namespace SceneMarkup.Http

abbrev Bytes := List UInt8

def bytesOf (s : String) : Bytes := Text.Utf8.encode s.toList

inductive Event where
  | started (status : Int) (headers : List (String × String))
  /-- A piece of the body, and whether more follows, where that is said. -/
  | body (bytes : Bytes) (more : Option Bool)
  | startupComplete
  | shutdownComplete
  deriving DecidableEq, Repr

inductive Kind where
  | plain
  | page
  | script
  deriving DecidableEq, Repr

def Kind.mediaType : Kind → String
  | plain => "text/plain"
  | page => "text/html"
  | script => "application/javascript"

inductive Content where
  | value (v : Value)
  | bytes (bs : Bytes)
  deriving Repr

def Content.toBytes : Content → Bytes
  | value .null => []
  | value v => bytesOf v.shown
  | bytes bs => bs

/-- A response; `streamed` is the file that is sent in place of the body. -/
structure Response where
  status : Int
  headers : Entries String
  mediaType : String
  body : Bytes
  streamed : Option Bytes
  deriving DecidableEq, Repr

namespace Response

def occursIn (piece : List Char) : List Char → Bool
  | [] => piece.isEmpty
  | c :: cs => piece.isPrefixOf (c :: cs) || occursIn piece cs

/-- The content type of a media type: textual types name their character set. -/
def contentType (mediaType : String) : String :=
  let cs := mediaType.toList
  let textual := "text/".toList.isPrefixOf cs || occursIn "javascript".toList cs
  if textual && !occursIn "charset=".toList cs then mediaType ++ "; charset=utf-8" else mediaType

/-- Whether a header is there, whatever the case of its name; the name is given in lower case. -/
def hasHeader (headers : Entries String) (name : String) : Bool :=
  headers.any fun h => Text.lower h.1 == name

def addMissing (headers : Entries String) (name lowered value : String) : Entries String :=
  if hasHeader headers lowered then headers else headers.put name value

def make (status : Int) (headers : Entries String) (mediaType : String) (body : Bytes)
    (streamed : Option Bytes) : Response where
  status := status
  headers :=
    addMissing (addMissing headers "Content-Type" "content-type" (contentType mediaType))
      "Content-Length" "content-length" (toString body.length)
  mediaType := mediaType
  body := body
  streamed := streamed

/-- A response that is sent whole. An empty media type stands for that of the kind. -/
def ofContent (kind : Kind) (content : Content) (status : Int) (headers : Entries String)
    (mediaType : String) : Response :=
  make status headers (if mediaType.isEmpty then kind.mediaType else mediaType) content.toBytes none

/-- A text with status 200. -/
def ofText (kind : Kind) (s : String) : Response := ofContent kind (.value (.text s)) 200 [] ""

/-- A plain message; an empty one is replaced by the phrase of the status. -/
def error (status : Int) (message : Option String) : Response :=
  let text := match message with
    | some m => if m.isEmpty then Status.phrase status else m
    | none => Status.phrase status
  ofContent .plain (.value (.text text)) status [] "text/plain"

def ofFile (types : MediaType.Table) (path : Path) (bytes : Bytes) : Response :=
  make 200 [("Content-Length", toString bytes.length)] (MediaType.ofName types path.text) []
    (some bytes)

def file? (types : MediaType.Table) (disk : Disk) (path : Path) :
    Except Disk.Fault (Option Response) :=
  (disk.file? path).map (·.map (ofFile types path))

section Sending

def pieceSize : Nat := 65536

/-- Cut a list into pieces of a positive size; the last may be shorter. -/
def pieces {α : Type} (size : Nat) : List α → List (List α)
  | [] => []
  | x :: xs => (x :: xs.take (size - 1)) :: pieces size (xs.drop (size - 1))
termination_by xs => xs.length
decreasing_by simp only [List.length_drop, List.length_cons]; omega

def sentHeaders (r : Response) : List (String × String) :=
  r.headers.map fun h => (Text.lower h.1, h.2)

/-- The messages of a response. A file is followed by an empty piece. -/
def events (r : Response) : List Event :=
  .started r.status r.sentHeaders ::
    match r.streamed with
    | none => [.body r.body none]
    | some bytes => (pieces pieceSize bytes).map (.body · (some true)) ++ [.body [] (some false)]

end Sending

end Response

end SceneMarkup.Http
