import SceneMarkup.Compression.Wrapping
import SceneMarkup.Http.Response
import SceneMarkup.Text.Lines

/-! # Content codings

A header lists the codings that were applied to a body, in order. They are undone from the last one
on; codings that are not known are passed over.
-/

namespace SceneMarkup.Http

/-- The value of a header; equal names are joined. The name is given in lower case. -/
def headerOf? (headers : List (String × String)) (name : String) : Option String :=
  match (headers.filter fun h => Text.lower h.1 == name).map (·.2) with
  | [] => none
  | values => some (", ".intercalate values)

inductive Coding where
  | gzip
  | deflate
  deriving DecidableEq, Repr

namespace Coding

open Compression

def named? : String → Option Coding
  | "gzip" => some gzip
  | "deflate" => some deflate
  | _ => none

def listed (value : String) : List Coding :=
  (Text.splitOnP (· == ',') value.toList).filterMap fun name =>
    named? (Text.lower (String.ofList (Text.trimWhile Text.isBlank name)))

/-- Undo a coding. Deflated data may lack its wrapping. -/
def undo : Coding → Bytes → Except Flaw Bytes
  | gzip, bytes => Wrapping.gzip.unwrap bytes
  | deflate, bytes =>
      match Wrapping.zlib.unwrap bytes with
      | .ok out => .ok out
      | .error _ => Wrapping.none.unwrap bytes

/-- The content of a body with the given headers. -/
def content (headers : List (String × String)) (body : Bytes) : Except Flaw Bytes :=
  let codings := (headerOf? headers "content-encoding").elim [] listed
  codings.reverse.foldlM (fun bytes coding => coding.undo bytes) body

end Coding

end SceneMarkup.Http
