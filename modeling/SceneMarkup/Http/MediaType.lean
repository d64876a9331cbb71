import SceneMarkup.Text.Lowercase
import SceneMarkup.Text.Utf8

/-! # Media types

The media type of a file follows from its name: shorthand endings are written out, a compression
ending is dropped, and the extension before it is looked up. A name may start with a scheme and a
colon; the scheme `data` says the media type itself.
-/

namespace SceneMarkup.Http.MediaType

abbrev Table := List (String × List String)

/-- The media types that are known everywhere; a machine may know more. -/
def builtin : Table := [
  ("application/javascript", [".js", ".mjs"]),
  ("application/json", [".json"]),
  ("application/manifest+json", [".webmanifest"]),
  ("application/msword", [".doc", ".dot", ".wiz"]),
  ("application/n-quads", [".nq"]),
  ("application/n-triples", [".nt"]),
  ("application/octet-stream", [".a", ".bin", ".dll", ".exe", ".o", ".obj", ".so"]),
  ("application/oda", [".oda"]),
  ("application/pdf", [".pdf"]),
  ("application/pkcs7-mime", [".p7c"]),
  ("application/postscript", [".ai", ".eps", ".ps"]),
  ("application/trig", [".trig"]),
  ("application/vnd.apple.mpegurl", [".m3u", ".m3u8"]),
  ("application/vnd.ms-excel", [".xlb", ".xls"]),
  ("application/vnd.ms-powerpoint", [".pot", ".ppa", ".pps", ".ppt", ".pwz"]),
  ("application/wasm", [".wasm"]),
  ("application/x-bcpio", [".bcpio"]),
  ("application/x-cpio", [".cpio"]),
  ("application/x-csh", [".csh"]),
  ("application/x-dvi", [".dvi"]),
  ("application/x-gtar", [".gtar"]),
  ("application/x-hdf", [".hdf"]),
  ("application/x-hdf5", [".h5"]),
  ("application/x-latex", [".latex"]),
  ("application/x-mif", [".mif"]),
  ("application/x-netcdf", [".cdf", ".nc"]),
  ("application/x-pkcs12", [".p12", ".pfx"]),
  ("application/x-pn-realaudio", [".ram"]),
  ("application/x-python-code", [".pyc", ".pyo"]),
  ("application/x-sh", [".sh"]),
  ("application/x-shar", [".shar"]),
  ("application/x-shockwave-flash", [".swf"]),
  ("application/x-sv4cpio", [".sv4cpio"]),
  ("application/x-sv4crc", [".sv4crc"]),
  ("application/x-tar", [".tar"]),
  ("application/x-tcl", [".tcl"]),
  ("application/x-tex", [".tex"]),
  ("application/x-texinfo", [".texi", ".texinfo"]),
  ("application/x-troff", [".roff", ".t", ".tr"]),
  ("application/x-troff-man", [".man"]),
  ("application/x-troff-me", [".me"]),
  ("application/x-troff-ms", [".ms"]),
  ("application/x-ustar", [".ustar"]),
  ("application/x-wais-source", [".src"]),
  ("application/xml", [".rdf", ".wsdl", ".xpdl", ".xsl"]),
  ("application/zip", [".zip"]),
  ("audio/3gpp", [".3gp", ".3gpp"]),
  ("audio/3gpp2", [".3g2", ".3gpp2"]),
  ("audio/aac", [".aac", ".adts", ".ass", ".loas"]),
  ("audio/basic", [".au", ".snd"]),
  ("audio/mpeg", [".mp2", ".mp3"]),
  ("audio/opus", [".opus"]),
  ("audio/x-aiff", [".aif", ".aifc", ".aiff"]),
  ("audio/x-pn-realaudio", [".ra"]),
  ("audio/x-wav", [".wav"]),
  ("image/avif", [".avif"]),
  ("image/bmp", [".bmp"]),
  ("image/gif", [".gif"]),
  ("image/heic", [".heic"]),
  ("image/heif", [".heif"]),
  ("image/ief", [".ief"]),
  ("image/jpeg", [".jpe", ".jpeg", ".jpg"]),
  ("image/png", [".png"]),
  ("image/svg+xml", [".svg"]),
  ("image/tiff", [".tif", ".tiff"]),
  ("image/vnd.microsoft.icon", [".ico"]),
  ("image/x-cmu-raster", [".ras"]),
  ("image/x-portable-anymap", [".pnm"]),
  ("image/x-portable-bitmap", [".pbm"]),
  ("image/x-portable-graymap", [".pgm"]),
  ("image/x-portable-pixmap", [".ppm"]),
  ("image/x-rgb", [".rgb"]),
  ("image/x-xbitmap", [".xbm"]),
  ("image/x-xpixmap", [".xpm"]),
  ("image/x-xwindowdump", [".xwd"]),
  ("message/rfc822", [".eml", ".mht", ".mhtml", ".nws"]),
  ("text/css", [".css"]),
  ("text/csv", [".csv"]),
  ("text/html", [".htm", ".html"]),
  ("text/n3", [".n3"]),
  ("text/plain", [".bat", ".c", ".h", ".ksh", ".pl", ".srt", ".txt"]),
  ("text/richtext", [".rtx"]),
  ("text/tab-separated-values", [".tsv"]),
  ("text/vtt", [".vtt"]),
  ("text/x-python", [".py"]),
  ("text/x-setext", [".etx"]),
  ("text/x-sgml", [".sgm", ".sgml"]),
  ("text/x-vcard", [".vcf"]),
  ("text/xml", [".xml"]),
  ("video/mp4", [".mp4"]),
  ("video/mpeg", [".m1v", ".mpa", ".mpe", ".mpeg", ".mpg"]),
  ("video/quicktime", [".mov", ".qt"]),
  ("video/webm", [".webm"]),
  ("video/x-msvideo", [".avi"]),
  ("video/x-sgi-movie", [".movie"])]

/-- Endings that stand for two. -/
def shorthands : List (String × String) := [
  (".svgz", ".svg.gz"), (".tgz", ".tar.gz"), (".taz", ".tar.gz"), (".tz", ".tar.gz"),
  (".tbz2", ".tar.bz2"), (".txz", ".tar.xz")]

def compressions : List String := [".gz", ".Z", ".bz2", ".xz", ".br"]

def fallback : String := "application/octet-stream"

/-- Split a path before the last dot of its last name; leading dots do not count. -/
def splitExtension (cs : List Char) : List Char × List Char :=
  let rev := cs.reverse
  let tailRev := rev.takeWhile fun c => c != '.' && c != '/'
  match rev.drop tailRev.length with
  | '.' :: beforeRev =>
      if (beforeRev.takeWhile (· != '/')).all (· == '.') then (cs, [])
      else (beforeRev.reverse, '.' :: tailRev.reverse)
  | _ => (cs, [])

/-- Write out a shorthand ending, in any case of letters; what it stands for is no shorthand. -/
def expand (base extension : List Char) : List Char × List Char :=
  match shorthands.lookup (Text.lower (String.ofList extension)) with
  | some long => splitExtension (base ++ long.toList)
  | none => (base, extension)

def ofExtension? (types : Table) (extension : List Char) : Option String :=
  let lowered := Text.lower (String.ofList extension)
  (types.find? fun row => row.2.contains lowered).map (·.1)

/-- Split a name behind the colon of its scheme; without a scheme that part is empty. -/
def splitScheme (cs : List Char) : List Char × List Char :=
  let scheme := cs.takeWhile fun c => c != '/' && c != ':'
  match scheme, cs.drop scheme.length with
  | c :: more, ':' :: rest => (c :: more, rest)
  | _, _ => ([], cs)

/-- The media type that a `data` name says before its comma, parameters left out. What is no media
type counts as plain text. -/
def ofData? (cs : List Char) : Option String :=
  if !cs.contains ',' then none
  else
    let said := (cs.takeWhile (· != ',')).takeWhile (· != ';')
    some (if said.contains '=' || !said.contains '/' then "text/plain" else String.ofList said)

def ofEnding? (types : Table) (cs : List Char) : Option String :=
  let (base, extension) := splitExtension cs
  let (base, extension) := expand base extension
  if compressions.contains (String.ofList extension) then
    ofExtension? types (splitExtension base).2
  else ofExtension? types extension

def ofName? (types : Table) (name : String) : Option String :=
  let (scheme, rest) := splitScheme name.toList
  if Text.lower (String.ofList scheme) = "data" then ofData? rest
  else ofEnding? types rest

def ofName (types : Table) (name : String) : String := (ofName? types name).getD fallback

end SceneMarkup.Http.MediaType
