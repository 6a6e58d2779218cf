import ResourcePool.Request.Json
import ResourcePool.Request.Yaml
import ResourcePool.Text.Shown

/-!
Loading requests. The name of a file decides how its content is read; the content is handed in, so
that loading is a function and only the outermost layer touches files.
-/

namespace ResourcePool

/-- How a request is written down. -/
inductive Format where
  | json
  | yaml
deriving DecidableEq

def Format.name : Format → String
  | .json => "JSON"
  | .yaml => "YAML"

/-! ### File names -/

/-- The last part of a path, if it names a file. -/
def lastPart? (path : List Char) : Option (List Char) :=
  match ((path.splitOn '/').filter fun part => part ≠ [] ∧ part ≠ ['.']).getLast? with
  | some part => if part = ['.', '.'] then none else some part
  | none => none

/-- What follows the last point of a file name, if something precedes it. -/
def extension? (name : List Char) : Option (List Char) :=
  let after := name.reverse.takeWhile (· ≠ '.')
  if after.length + 1 < name.length then some after.reverse else none

/-- Files with an extension of YAML, in either case, hold YAML; all others hold JSON. -/
def Format.ofPath (path : String) : Format :=
  match ((lastPart? path.toList).bind extension?).map (List.map Char.toLower) with
  | some ['y', 'a', 'm', 'l'] | some ['y', 'm', 'l'] => .yaml
  | _ => .json

/-! ### Loading -/

/-- The request that a text describes. -/
def Request.read? (format : Format) (text : String) : Option Request :=
  match format with
  | .json => (Json.read? text.toList).bind Request.ofJson?
  | .yaml => (Yaml.read? text.toList).bind Request.ofYaml?

/-- Why a request is not loaded. -/
inductive LoadFailure where
  | unreadable (path : String)
  | malformed (format : Format)
  | unresolved (cause : Error)
deriving DecidableEq

def LoadFailure.message : LoadFailure → String
  | .unreadable path => "Failed to read request file " ++ Text.shown path
  | .malformed format => s!"Failed to parse {format.name} request"
  | .unresolved cause => cause.message

/-- A loaded request with its kind, or the reason why there is none, and the records left. -/
structure Loading where
  records : List Record
  result : Except LoadFailure (Request × Kind)

/-- The request in a file's content, with its kind; there is no content if the file cannot be read. -/
def Request.ofFile (path : String) (content : Option String) :
    Except LoadFailure (Request × Kind) :=
  match content with
  | none => .error (.unreadable path)
  | some text =>
    match Request.read? (.ofPath path) text with
    | none => .error (.malformed (.ofPath path))
    | some request =>
      match request.kind with
      | .ok kind => .ok (request, kind)
      | .error cause => .error (.unresolved cause)

/-- Loads a request and says so in the log. -/
def Request.load (path : String) (content : Option String) : Loading :=
  let opening : Record := ⟨.info, "Loading allocation request from: " ++ Text.shown path⟩
  let result := Request.ofFile path content
  match result with
  | .ok (request, kind) =>
    ⟨[opening, ⟨.info, s!"Request for {kind.name} strategy with {request.held.length} allocated resources"⟩],
      result⟩
  | .error _ => ⟨[opening], result⟩

end ResourcePool
