import SceneMarkup.Build.Project
import SceneMarkup.Http.Percent
import SceneMarkup.Server.Backend

/-! # The development server

The server answers with the index page, the module compiled from the entry, and files below its
root. With a backend it passes on everything but the first two.
-/

namespace SceneMarkup.Server

def scriptPath : String := "/index.js"

def defaultTitle : String := "Opal"

def indexPage (scriptAddress title : String) : String :=
  "\n".intercalate [
    "<!DOCTYPE html>",
    "<html lang=\"en\">",
    "\t<head>",
    "\t\t<meta charset=\"UTF-8\">",
    "\t\t<meta name=\"viewport\" content=\"width=device-width, initial-scale=1.0\">",
    "\t\t<title>" ++ title ++ "</title>",
    "\t</head>",
    "\t<body>",
    "\t\t<div id=\"root\"></div>",
    "\t\t<script src=\"" ++ scriptAddress ++ "\"></script>",
    "\t</body>",
    "</html>",
    ""]

end SceneMarkup.Server

namespace SceneMarkup

/-- A root, the entry to compile, a backend if there is one, and what has been compiled. -/
structure Server where
  root : Path
  entry : String
  backend : Option String
  project : Build.Project

namespace Server

inductive Fault where
  | build (fault : Build.Fault)
  | disk (fault : Disk.Fault)
  /-- A path holds a null character. -/
  | nullInPath
  /-- Links on the way of a path lead back to each other. -/
  | circularPath
  | unknownScope (kind : String)
  | call (failure : Log.Failure)
  deriving DecidableEq, Repr

def Fault.message? : Fault → Option String
  | nullInPath => some "embedded null byte"
  | unknownScope kind => some ("Unknown scope type: " ++ kind)
  | call failure => some failure.message
  | _ => none

/-- A backend address without slashes at its end; an empty one is none. -/
def normalBackend (address : Option String) : Option String :=
  match address with
  | some a =>
      if a.isEmpty then none
      else some (String.ofList (Text.dropWhileEnd (· == '/') a.toList))
  | none => none

def defaultEntry : String := "src/index.opal"

def ofRoot (root : Path) (entry : String) (backend : Option String) : Server where
  root := root
  entry := entry
  backend := normalBackend backend
  project := .ofRoot root Build.defaultCapacity

structure Step (α : Type) where
  result : α
  server : Server
  records : List Log.Record
  calls : List Call

section StaticFiles

/-- Go one step by name alone, whatever lies there. -/
def lexicalStep (place : Place) (name : String) : Place :=
  if name = ".." then place.dropLast else place ++ [name]

/-- Go by names from a place, whatever lies there, but follow links: `follow` goes by the names of
the target of one. A link that is being followed already is left as it is, with the names behind it;
then the place does not count as resolved. -/
def resolveWith (disk : Disk) (follow : (link start : Place) → List String → Place × Bool)
    (opened : List Place) : Place → List String → Place × Bool
  | place, [] => (place, true)
  | place, name :: names =>
      let next := lexicalStep place name
      match disk.at? next with
      | some (.link target) =>
          if opened.contains next then (names.foldl lexicalStep next, false)
          else match follow next (if target.isAbsolute then [] else place) target.parts with
            | (place', true) => resolveWith disk follow opened place' names
            | (place', false) => (names.foldl lexicalStep place', false)
      | _ => resolveWith disk follow opened next names

/-- Go by names from a place while the opened links are being followed, and so many more at most. -/
def resolveFrom (disk : Disk) :
    (links : Nat) → (opened : List Place) → Place → List String → Place × Bool
  | 0, _ => fun place names => (names.foldl lexicalStep place, false)
  | links + 1, opened =>
      resolveWith disk (fun link => resolveFrom disk links (link :: opened)) opened

/-- The place that a path names once its links are followed, as far as they can be. No more of them
can be opened at once than there are names on the disk. -/
def resolved (disk : Disk) (p : Path) : Place :=
  (resolveFrom disk ((disk.entries.flatMap (·.1)).length + 1) [] (disk.start p) p.parts).1

def pathTo (place : Place) : Path := ⟨.slash, place⟩

/-- Whether what a path names cannot be asked for, as its links lead back to each other. -/
def isCircular (disk : Disk) (p : Path) : Bool :=
  match disk.locate (pathTo (resolved disk p)) with
  | .error .tooManyLinks => true
  | _ => false

def target (s : Server) (requested : String) : Path :=
  let decoded := (Http.Percent.decode requested).toList
  s.root.join (Path.ofText (String.ofList (decoded.dropWhile (· == '/'))))

def notFound : Http.Response := .error 404 none

def serveFile (s : Server) (types : Http.MediaType.Table) (disk : Disk) (requested : String) :
    Except Fault Http.Response :=
  let wanted := s.target requested
  if isCircular disk s.root then .error .circularPath
  else if wanted.parts.any Disk.hasNull then .error .nullInPath
  else if isCircular disk wanted then .error .circularPath
  else
    let place := resolved disk wanted
    if (resolved disk s.root).isPrefixOf place then
      match Http.Response.file? types disk (pathTo place) with
      | .ok response => .ok (response.getD notFound)
      | .error f => .error (.disk f)
    else .ok notFound

end StaticFiles

section Answers

def serveModule (s : Server) (disk : Disk) : Step (Except Fault Http.Response) :=
  let loaded := s.project.load disk (Path.ofText s.entry)
  let server := { s with project := loaded.project }
  match loaded.result with
  | .error f => ⟨.error (.build f), server, loaded.records, []⟩
  | .ok o =>
      let response : Http.Response :=
        if o.isOk then .ofContent .script (.value ((o.contents.map .text).getD .null)) 200 [] ""
        else
          let text := "\n\n".intercalate (o.errors.map (·.shown))
          .ofContent .plain (.value (.text text)) 500 [] ""
      ⟨.ok response, server, loaded.records, []⟩

def failedRecord (url : String) (failure : Log.Failure) : Log.Record where
  level := .error
  logger := Log.serverLogger
  message := "Upstream request failed"
  context := [("url", .text url)]
  cause := some (.failure failure)

def passOn (s : Server) (backend : String) (host : Host) (r : Request) :
    Step (Except Fault Http.Response) :=
  let call := Call.ofRequest backend r
  let step (result : Except Fault Http.Response) (records : List Log.Record) :
      Step (Except Fault Http.Response) := ⟨result, s, records, [call]⟩
  match host.client call with
  | .ok answer => step (.ok answer.relayed) []
  | .error failure =>
      if gatewayFailures.contains failure.kind then
        step (.ok (.error 502 none)) [failedRecord call.url failure]
      else step (.error (.call failure)) []

def indexPaths : List String := ["/", "/index.html"]

def handle (s : Server) (disk : Disk) (host : Host) (r : Request) :
    Step (Except Fault Http.Response) :=
  if indexPaths.contains r.path then
    ⟨.ok (.ofText .page (indexPage scriptPath defaultTitle)), s, [], []⟩
  else if r.path = scriptPath then s.serveModule disk
  else match s.backend with
    | some address =>
        if address.isEmpty then ⟨s.serveFile host.types disk r.path, s, [], []⟩
        else s.passOn address host r
    | none => ⟨s.serveFile host.types disk r.path, s, [], []⟩

end Answers

section Hosting

inductive Life where
  | startup
  | shutdown
  | other
  deriving DecidableEq, Repr

def lifeEvents : List Life → List Http.Event
  | [] => []
  | .startup :: rest => .startupComplete :: lifeEvents rest
  | .shutdown :: _ => [.shutdownComplete]
  | .other :: rest => lifeEvents rest

inductive Scope where
  | life (messages : List Life)
  | request (r : Request)
  | other (kind : String)
  deriving DecidableEq, Repr

def answeredRecord (r : Request) (status : Int) : Log.Record where
  level := .info
  logger := Log.serverLogger
  message := r.method ++ " " ++ r.path
  context := [("status", .integer status), ("ms", Log.noTime)]
  cause := none

/-- Serve a scope: the messages to send, or why there are none. -/
def serve (s : Server) (disk : Disk) (host : Host) :
    Scope → Step (Except Fault (List Http.Event))
  | .life messages => ⟨.ok (lifeEvents messages), s, [], []⟩
  | .other kind => ⟨.error (.unknownScope kind), s, [], []⟩
  | .request r =>
      let step := s.handle disk host r
      match step.result with
      | .error f => ⟨.error f, step.server, step.records, step.calls⟩
      | .ok response =>
          let records := step.records ++ [answeredRecord r response.status]
          ⟨.ok response.events, step.server, records, step.calls⟩

def runningRecord (s : Server) (host tcpPort : String) : Log.Record where
  level := .info
  logger := Log.serverLogger
  message := "Server running"
  context := [("url", .text s!"http://{host}:{tcpPort}"), ("entry", .text s.entry)]
  cause := none

end Hosting

end Server

end SceneMarkup
