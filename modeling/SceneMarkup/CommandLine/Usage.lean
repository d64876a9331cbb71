/-! # Usage texts

How each command is used, line by line.
-/

namespace SceneMarkup.CommandLine.Usage

def text (lines : List String) : String := String.join (lines.map (· ++ "\n"))

def mainUsage : List String := [
  "usage: opal [-h] [-v] [--log-level \x7bdebug,info,warning,error,critical\x7d]",
  "            [--log-format \x7btext,json\x7d]",
  "            \x7bparse,check,build,dev\x7d ..."]

def mainDetails : List String := [
  "",
  "Opal command line tool",
  "",
  "positional arguments:",
  "  \x7bparse,check,build,dev\x7d",
  "                        Available commands",
  "    parse               Parse a file and print the document",
  "    check               Check files for syntax errors",
  "    build               Build the project",
  "    dev                 Run development server",
  "",
  "options:",
  "  -h, --help            show this help message and exit",
  "  -v, --version         show program's version number and exit",
  "  --log-level \x7bdebug,info,warning,error,critical\x7d",
  "                        Log level",
  "  --log-format \x7btext,json\x7d",
  "                        Log output format",
  "",
  "Examples:",
  "  opal parse src/index.opal          Print the parsed document",
  "  opal parse src/index.opal --json   Print the document as JSON",
  "  opal check src/*.opal              Check files for syntax errors",
  "  opal build                         Build the project",
  "  opal dev --port 3000               Run development server",
  "        "]

def parseUsage : List String := [
  "usage: opal parse [-h] [--json] [--pretty] file"]

def parseDetails : List String := [
  "",
  "positional arguments:",
  "  file        Opal source file",
  "",
  "options:",
  "  -h, --help  show this help message and exit",
  "  --json      Print the document as JSON",
  "  --pretty    Indent JSON output"]

def checkUsage : List String := [
  "usage: opal check [-h] files [files ...]"]

def checkDetails : List String := [
  "",
  "positional arguments:",
  "  files       Opal source files",
  "",
  "options:",
  "  -h, --help  show this help message and exit"]

def buildUsage : List String := [
  "usage: opal build [-h] [--output OUTPUT] [entry]"]

def buildDetails : List String := [
  "",
  "positional arguments:",
  "  entry            Entry file",
  "",
  "options:",
  "  -h, --help       show this help message and exit",
  "  --output OUTPUT  Output file"]

def devUsage : List String := [
  "usage: opal dev [-h] [--host HOST] [--port PORT] [--entry ENTRY]",
  "                [--upstream UPSTREAM]"]

def devDetails : List String := [
  "",
  "options:",
  "  -h, --help           show this help message and exit",
  "  --host HOST          Host to bind to",
  "  --port PORT          Port to bind to",
  "  --entry ENTRY        Entry file",
  "  --upstream UPSTREAM  Bundler server to proxy other requests to"]

end SceneMarkup.CommandLine.Usage
