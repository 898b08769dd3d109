import LiveTrace.Registry.Document
/-!
# LiveTrace.Registry.Merge

The APIs that a session knows, with their operations. Documents are merged into a registry: what
is new in a document is added, and what is known already stays as it is. The monitoring API is
left out.
-/

namespace LiveTrace

/-- An operation of an API. -/
structure Operation where
  name : String
  description : String
  /-- Who may use it, kept as it is. -/
  permissions : Option Json
  deriving Inhabited

/-- An API of the daemon. -/
structure Api where
  name : String
  description : String
  /-- The operations by name. -/
  operations : Table String Operation
  deriving Inhabited

/-- What a merge added. -/
structure MergeReport where
  /-- Names of APIs. -/
  apis : List String
  /-- Names of operations, after the name of their API. -/
  operations : List (String × String)
  deriving DecidableEq, Inhabited

/-- Whether a merge added nothing. -/
def MergeReport.isEmpty (r : MergeReport) : Bool := r.apis.isEmpty && r.operations.isEmpty

/-- The operation of a path: the path without one leading slash. -/
def operationName (path : String) : String :=
  match path.toList with
  | '/' :: rest => String.ofList rest
  | _ => path

namespace Api

/-- An API without operations, with the description of its document. -/
def new (name : String) (document : ApiDocument) : Api :=
  ⟨name, document.description.getD "", .empty⟩

/-- The operation of a path as documented. -/
def operation (path : String) (document : OperationDocument) : Operation :=
  ⟨operationName path, document.description.getD "", document.permissions⟩

/-- Add the operation of a path, unless there is one of its name: what was added. -/
def addPath (api : Api) (path : String) (document : OperationDocument) : List String × Api :=
  let name := operationName path
  if api.operations.contains name then ([], api)
  else
    ([name], { api with operations := api.operations.insert name (operation path document) })

/-- Add the operations of paths in order: what was added. -/
def addPaths (api : Api) : List (String × OperationDocument) → List String × Api
  | [] => ([], api)
  | (path, document) :: rest =>
    let (added, api) := api.addPath path document
    let (more, api) := api.addPaths rest
    (added ++ more, api)

end Api

/-- The APIs that a session knows, by name. -/
structure Registry where
  apis : Table String Api
  deriving Inhabited

namespace Registry

/-- No API is known. -/
def empty : Registry := ⟨.empty⟩

/-- The API of a name. -/
def api? (r : Registry) (name : String) : Option Api := r.apis.get? name

/-- An operation of an API. -/
def operation? (r : Registry) (api name : String) : Option Operation :=
  (r.api? api).bind fun a => a.operations.get? name

/-- Merge the description of one API: what was added. -/
def addApi (r : Registry) (name : String) (document : ApiDocument) : MergeReport × Registry :=
  let known := r.api? name
  let (added, api) := (known.getD (.new name document)).addPaths document.paths
  (⟨if known.isSome then [] else [name], added.map fun op => (name, op)⟩,
    ⟨r.apis.insert name api⟩)

/-- Merge descriptions of APIs in order, the monitoring API apart: what was added. -/
def merge (r : Registry) (monitorApi : String) :
    List (String × ApiDocument) → MergeReport × Registry
  | [] => (⟨[], []⟩, r)
  | (name, document) :: rest =>
    if name = monitorApi then r.merge monitorApi rest
    else
      let (added, r) := r.addApi name document
      let (more, r) := r.merge monitorApi rest
      (⟨added.apis ++ more.apis, added.operations ++ more.operations⟩, r)

end Registry

end LiveTrace
