import ComponentFormat.Host.Request
import ComponentFormat.Formatting.Service

/-! # The endpoints of the host

A request is led to an endpoint by its path, and by its method when there is one. A host without a service
still reads the bodies, so that an invalid body is told from a missing service.
-/
namespace ComponentFormat.Host

inductive Endpoint where
  | formatText
  | formatFile
  | options
  | health
  /-- The pages that describe the host. -/
  | page (name : String)
  deriving DecidableEq, Repr

inductive Response where
  | healthy
  | options (o : Options)
  | text (f : FormattedText)
  | file (f : FormattedFile)
  | page
  | missing (detail : String)
  | wrongMethod
  | invalidBody
  /-- A body that cannot be read to its end. -/
  | unreadableBody
  | failed (detail : Option String)

def Response.status : Response → Nat
  | healthy | options _ | text _ | file _ | page => 200
  | unreadableBody => 400
  | missing _ => 404
  | wrongMethod => 405
  | invalidBody => 422
  | failed _ => 500

namespace Endpoint

def all : List Endpoint :=
  [.formatText, .formatFile, .options, .health, .page "/docs", .page "/docs/oauth2-redirect", .page "/redoc",
    .page "/openapi.json"]

def path : Endpoint → String
  | formatText => "/api/format"
  | formatFile => "/api/format/file"
  | options => "/api/options"
  | health => "/health"
  | page name => name

def methods : Endpoint → List String
  | formatText | formatFile => ["POST"]
  | options | health => ["GET"]
  | page _ => ["GET", "HEAD"]

/-- The endpoint at a path; a line feed at the end of the path does not count. -/
def at? (p : Text) : Option Endpoint :=
  all.find? fun e => e.path.toList == p || e.path.toList ++ ['\n'] == p

/-- The endpoint that a path leads to; slashes at its end do not count. -/
def ofPath? (p : Text) : Option Endpoint :=
  (at? p).or (if p.getLast? = some '/' then at? (Text.trimEnd (· == '/') p) else none)

end Endpoint

def noService : Response :=
  .failed (some "FormattingService not initialized")

def Response.ofReport {α : Type} (respond : α → Response) (r : Report α) : Response :=
  match r.result with
  | .ok a => respond a
  | .error _ => .failed none

/-- The answer to an invalid body shows the values at fault; one that is no finite number cannot be shown. -/
def Response.ofInvalid (shown : List Value) : Response :=
  if shown.all Value.isFinite then .invalidBody else .failed none

def respondText (service : Option Service) (files : FileTree) (body : Body) : Response :=
  match TextRequest.ofBody body, service with
  | .error shown, _ => .ofInvalid shown
  | .ok _, none => noService
  | .ok r, some s => .ofReport .text (s.formatText files r.text (Resolver.rootOf r.projectRoot) r.settings)

def respondFile (service : Option Service) (files : FileTree) (body : Body) : Response × FileTree :=
  match FileRequest.ofBody body, service with
  | .error shown, _ => (.ofInvalid shown, files)
  | .ok _, none => (noService, files)
  | .ok r, some s =>
    let (report, files) := s.formatFile files (Path.ofString r.path) (Resolver.rootOf r.projectRoot) r.write
    match report.result with
    | .error (.file .notFound) => (.missing s!"File not found: {r.path}", files)
    | _ => (.ofReport .file report, files)

/-- Of several project roots in a query the last one counts. -/
def respondOptions (service : Option Service) (files : FileTree) (query : List (Text × Text)) : Response :=
  match service with
  | none => .failed none
  | some s =>
    let root := (Keyed.get? "project_root".toList query.reverse).map String.ofList
    .ofReport .options (s.resolveOptions files (Resolver.rootOf root) none)

/-- Answer a request; only a file that is written back changes the files. -/
def respond (service : Option Service) (files : FileTree) (r : Request) : Response × FileTree :=
  match Endpoint.ofPath? r.target.path, r.body with
  | none, _ => (.missing "Not Found", files)
  | some e, body =>
    if !e.methods.contains r.method.toUpper then (.wrongMethod, files)
    else match e, body with
      | .formatText, .unreadable | .formatFile, .unreadable => (.unreadableBody, files)
      | .formatText, _ => (respondText service files body, files)
      | .formatFile, _ => respondFile service files body
      | .options, _ => (respondOptions service files r.target.query, files)
      | .health, _ => (.healthy, files)
      | .page _, _ => (.page, files)

end ComponentFormat.Host
