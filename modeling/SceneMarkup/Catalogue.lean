import SceneMarkup.Entries

/-! # The public catalogue

The names that the package offers to programs that embed it: the components with the modules that
define them, the texts that describe the package, and what every package has besides.
-/

namespace SceneMarkup.Catalogue

inductive Item where
  | text (value : String)
  /-- A component with its own name and, unless every package has it, the module that defines it. -/
  | component (home : Option String) (name : String)
  /-- Something that has no name and no module of its own. -/
  | anonymous
  deriving DecidableEq, Repr

def packageName : String := "opal"

def version : String := "0.1.0"

def description : String :=
  "\n".intercalate [
    "",
    "Opal",
    "====",
    "",
    "Parser and tooling for ``.opal`` sources: raw script blocks followed by a",
    "tree of fragments with attributes and data bindings.",
    "",
    "    <script lang=\"ts\">",
    "        let color: string = \"red\";",
    "    </script>",
    "",
    "    <scene name=\"demo\">",
    "        <box \x7bcolor\x7d />",
    "    </scene>",
    "",
    "Quick Start:",
    "    >>> from opal import parse",
    "    >>> document = parse(source, \"src/index.opal\")",
    "    >>> document.fragments[0].children[0].bindings",
    "    \x7b'color': 'color'\x7d",
    "",
    "Command line:",
    "    $ opal check src/index.opal",
    "    $ opal build",
    "    $ opal dev",
    ""]

def texts : Entries Item := [
  ("__name__", .text packageName),
  ("__package__", .text packageName),
  ("__version__", .text version),
  ("__license__", .text "MIT"),
  ("__doc__", .text description)]

def components : Entries Item :=
  let defined (home : String) (names : List String) : Entries Item :=
    names.map fun name => (name, .component (some home) name)
  defined "opal.engine.diagnostics" ["ErrorReason", "OpalError", "OpalSyntaxError"] ++
    defined "opal.engine.document" ["Document", "Fragment", "Script"] ++
    defined "opal.engine.parser" ["OpalParser", "parse"] ++
    defined "opal.engine.compiler" ["OpalCompiler", "CompiledModule", "compile"] ++
    defined "opal.core.bundler" ["Bundler"] ++
    defined "opal.core.config" ["Config"] ++
    defined "opal.core.server" ["DevServer"]

/-- What the package has because every package has it: its class, the hook that offers names only
when they are asked for, and operations that belong to no module. -/
def inherited : Entries Item :=
  [("__class__", .component (some "builtins") "module"),
    ("__getattr__", .component (some packageName) "__getattr__")] ++
  ["__dir__", "__format__", "__getstate__", "__init_subclass__", "__new__", "__reduce__",
    "__reduce_ex__", "__sizeof__", "__subclasshook__"].map
      fun name => (name, .component none name)

/-- The names of the parts of the package, of its own records, and of bound operations. -/
def unnamed : List String :=
  ["engine", "core", "utils", "cli", "TYPE_CHECKING", "annotations", "__all__", "__annotations__",
    "__builtins__", "__dict__", "__loader__", "__path__", "__spec__", "__delattr__", "__eq__",
    "__ge__", "__getattribute__", "__gt__", "__hash__", "__init__", "__le__", "__lt__", "__ne__",
    "__repr__", "__setattr__", "__str__"]

def items : Entries Item :=
  texts ++ components ++ inherited ++ unnamed.map fun name => (name, .anonymous)

def absentMessage (name : String) : String :=
  s!"module '{packageName}' has no attribute '{name}'"

def lookup (name : String) : Except String Item :=
  match items.get? name with
  | some item => .ok item
  | none => .error (absentMessage name)

end SceneMarkup.Catalogue
