import QueryCanvas.Http.Body
import QueryCanvas.Http.Host
import QueryCanvas.Http.Route
import QueryCanvas.Http.View
import QueryCanvas.Session.Registry
import QueryCanvas.Warehouse

/-!
# The service

The state behind the endpoints, and `App.handle`, which answers one request: it finds the endpoint,
the session and the fields of the body, in this order of refusal: a body that is no JSON, an unknown
session, fields of the wrong form, and then whatever the session itself refuses.

Every request leaves one row in the request log. A failure of the warehouse leaves a row of its own
in front of it, and a crash leaves only such a row. A preflight is answered in front of the log and
leaves none.
-/

namespace QueryCanvas.Http

/-- A request. The names of its headers are in lower case. -/
structure Request where
  method : String
  target : String
  body : String
  headers : List (String × String)
  deriving DecidableEq, Repr

/-- The value of a header; of several of one name the first counts. -/
def Request.header? (r : Request) (name : String) : Option String :=
  (r.headers.find? (·.1 == name)).map (·.2)

/-- The method that a preflight asks about: a request by which a page of another origin learns what it may
ask for. -/
def Request.preflight? (r : Request) : Option String :=
  if r.method = "OPTIONS" ∧ (r.header? "origin").isSome then r.header? "access-control-request-method" else none

/-- What a response carries. -/
inductive Content where
  | json (v : Value)
  | text (s : String)
  deriving Repr

/-- A response. -/
structure Response where
  status : Nat
  content : Content
  deriving Repr

/-- A row of the request log. -/
structure RequestRow where
  method : String
  path : String
  status : Nat
  request : Option String
  response : Option String
  deriving DecidableEq, Repr

/-- The state of the service. A log that can be neither written nor read is `none`. -/
structure App where
  host : Host
  warehouse : Warehouse
  registry : Registry
  audit : AuditStore
  requestLog : Option (List RequestRow)
  ids : IdSupply
  clock : Clock

/-- What becomes of a request. -/
inductive Result where
  | done (status : Nat) (v : Value)
  | refused (status : Nat) (detail : String)
  | invalid (issues : List Issue)
  | failed (kind : FaultKind) (message : String)
  | page
  | redirected
  | preflight (isAllowed : Bool)
  | crashed
  deriving Repr

namespace Result

/-- The detail of a response. -/
def detail (v : Value) : Value :=
  .record [("detail", v)]

/-- What the service says of a failure. -/
def failureValue (kind : FaultKind) (message : String) : Value :=
  .record [("detail", .text message), ("error_type", .text kind.name)]

/-- Whether issues can be shown: JSON can write them, and none of them shows an input that the host cannot go
into. -/
def isShowable (host : Host) (issues : List Issue) : Bool :=
  Json.allEncodable (issues.map Issue.toValue) && issues.all fun i => showingDepth i.input ≤ host.shownDepth

/-- A result that can be answered: what no JSON can write, issues that cannot be shown, and failures that
are none of the service's own, are crashes. -/
def settled (host : Host) : Result → Result
  | .done status v => if Json.encodable v then .done status v else .crashed
  | .invalid issues => if isShowable host issues then .invalid issues else .crashed
  | .failed kind message => if kind.isBuilder then .failed kind message else .crashed
  | r => r

/-- The refusal of an edit. What is torn in its wording cannot be sent. -/
def ofEditError (e : EditError) : Result :=
  if e.given.any Value.isTorn then .crashed else .failed e.kind e.message

/-- The response to a settled result. -/
def toResponse : Result → Response
  | .done status v => ⟨status, .json v⟩
  | .refused status s => ⟨status, .json (detail (.text s))⟩
  | .invalid issues => ⟨422, .json (detail (.list (issues.map Issue.toValue)))⟩
  | .failed kind message => ⟨kind.status, .json (failureValue kind message)⟩
  | .page => ⟨200, .text ""⟩
  | .redirected => ⟨307, .text ""⟩
  | .preflight isAllowed =>
    if isAllowed then ⟨200, .text "OK"⟩ else ⟨400, .text "Disallowed CORS method"⟩
  | .crashed => ⟨500, .json (detail (.text "Internal Server Error"))⟩

end Result

namespace App

/-- A service over a warehouse with room for a number of sessions. -/
def start (host : Host) (warehouse : Warehouse) (capacity : Int) : App :=
  ⟨host, warehouse, .empty capacity, some [], some [], .fresh, .fresh⟩

/-! ## Sessions -/

/-- The refusal of an unknown session. -/
def sessionUnknown : Result :=
  .refused 404 "Query session not found"

/-- What a compiled view gives. -/
def compiled (status : Nat) : Except Sql.CompileError Value → Result
  | .ok v => .done status v
  | .error e => .failed e.kind e.message

/-- Shows a session that has just been put into the registry. -/
def keep (s : Session) (a : App) : Result × App :=
  (compiled 200 (sessionView s), { a with registry := a.registry.replace s.id s })

/-- Opens a session on the warehouse. -/
def startSession (a : App) : Result × App :=
  match Catalog.load a.warehouse.reader none with
  | .error e => (.failed e.kind e.message, a)
  | .ok report =>
    let (s, ids, clock) := Session.start a.warehouse.dialect report.catalog .null a.ids a.clock
    let a := { a with ids := ids, clock := clock }
    match a.registry.add? s with
    | none => (.failed .sessionBusy Registry.fullMessage, a)
    | some registry => (compiled 201 (sessionView s), { a with registry := registry })

/-- Closes a session. -/
def endSession (id : String) (a : App) : Result × App :=
  match a.registry.remove id with
  | (some _, registry) =>
    (.done 200 (.record [("message", .text "Query session ended")]), { a with registry := registry })
  | (none, _) => (sessionUnknown, a)

/-- Does something with the session of an id, which counts as used. -/
def withSession (id : String) (f : Session → App → Result × App) (a : App) : Result × App :=
  match a.registry.get id a.clock with
  | (some s, registry, clock) => f s { a with registry := registry, clock := clock }
  | (none, _, _) => (sessionUnknown, a)

/-! ## Edits -/

/-- Carries out an edit of a session. -/
def edit (e : Edit) (s : Session) (a : App) : Result × App :=
  match s.edit e a.ids with
  | (.ok _, s, ids) => { a with ids := ids }.keep s
  | (.error e, s, ids) => (.ofEditError e, { a with ids := ids, registry := a.registry.replace s.id s })

/-- Does what the body of a request asks for. -/
def command (c : Command) (s : Session) (a : App) : Result × App :=
  match c with
  | .edit e => a.edit e s
  | .reset name =>
    let (s, ids, clock) := s.newQuery (name.getD (.text Canvas.defaultName)) a.ids a.clock
    { a with ids := ids, clock := clock }.keep s

/-- The value of a body: none for an empty one. -/
def bodyValue (host : Host) (body : String) : Except Result (Option Value) :=
  if body = "" then .ok none
  else
    match Json.read host.readDepth body with
    | .ok v => .ok (some v)
    | .error (.syntaxAt p) => .error (.invalid [⟨.notJson, [.text "body", .int p], .record []⟩])
    | .error .numberTooLong | .error .nestedTooDeep => .error (.refused 400 "There was an error parsing the body")

/-- Answers a request with a body. -/
def bodyRequest (k : BodyKind) (id : String) (body : String) (a : App) : Result × App :=
  match bodyValue a.host body with
  | .error r => (r, a)
  | .ok v =>
    a.withSession id fun s a =>
      match k.check v with
      | .ok c => a.command c s
      | .refused issues => (.invalid issues, a)

/-- The kinds of parts under the names that paths give them. -/
def partKinds : List (String × PartKind) :=
  [("joins", .join), ("filters", .filter), ("sorts", .sort), ("groups", .group), ("aggregates", .aggregate)]

/-- Removes a part. -/
def removePart (kind item : String) (s : Session) (a : App) : Result × App :=
  match partKinds.find? (·.1 == kind) with
  | some (_, k) => a.edit (.remove k (.text item)) s
  | none => (.refused 404 ("Unknown query part '" ++ kind ++ "'"), a)

/-! ## Joins -/

/-- A parameter that has to be there. -/
def parameter (t : Target) (name : String) : Checked String :=
  match t.parameter? name with
  | some s => .ok s
  | none => .refused [⟨.missing, [.text "query", .text name], .null⟩]

/-- Shows the joins that the catalog suggests for two tables. -/
def suggestJoins (t : Target) (s : Session) (a : App) : Result × App :=
  match Prod.mk <$> parameter t "left" <*> parameter t "right" with
  | .ok (left, right) =>
    let (joins, ids) := s.catalog.suggestJoins (.text left) (.text right) a.ids
    (.done 200 (.list (joins.map Canvas.joinRecord)), { a with ids := ids })
  | .refused issues => (.invalid issues, a)

/-! ## Executions -/

/-- Runs the statement of a session and records the outcome, if the log can take it. -/
def execute (s : Session) (a : App) : Result × App :=
  match s.begin a.clock with
  | .error e => (.failed e.kind e.message, a)
  | .ok (sql, s, clock) =>
    let (answer, warehouse) := a.warehouse.run sql
    match s.finish answer with
    | (none, _) => (.crashed, a)
    | (some outcome, s) =>
      let (audit, clock) := (if isRecordable s.canvas then a.audit else none).record s sql outcome clock
      let a :=
        { a with
          warehouse := warehouse
          registry := a.registry.replace s.id s
          audit := audit.or a.audit
          clock := clock }
      match outcome with
      | .ok r => (.done 200 (resultView s.canvas r), a)
      | .error e => (.failed e.kind e.message, a)

/-- Asks for the cancellation of the run of a session. -/
def cancel (s : Session) (a : App) : Result × App :=
  let (cancelled, s) := s.cancel
  (.done 200 (.record [("cancelled", .bool cancelled)]), { a with registry := a.registry.replace s.id s })

/-- The number of executions that are shown if nothing else is said. -/
def defaultShown : Int := 50

/-- The most executions that are shown. -/
def maxShown : Int := 500

/-- The number of executions to show. -/
def shownLimit (t : Target) : Checked Int :=
  let issue (k : IssueKind) (s : String) : Checked Int :=
    .refused [⟨k, [.text "query", .text "limit"], .text s⟩]
  match t.parameter? "limit" with
  | none => .ok defaultShown
  | some s =>
    match wholeOfText s with
    | .error k => issue k s
    | .ok n => if n < 1 then issue (.below 1) s else if maxShown < n then issue (.above maxShown) s else .ok n

/-- Shows the recorded executions of a session. -/
def executions (session : String) (t : Target) (a : App) : Result :=
  match shownLimit t, a.audit with
  | .refused issues, _ => .invalid issues
  | .ok _, none => .crashed
  | .ok n, some rows =>
    .done 200 (.list ((AuditLog.bySession rows (.text session) (some n)).map fun r => .record r.columns))

/-- Shows how many executions of a session are recorded. -/
def executionSummary (session : String) (a : App) : Result :=
  match a.audit with
  | none => .crashed
  | some rows => .done 200 (summaryView session (AuditLog.summary rows session))

/-! ## Requests -/

/-- Answers at an endpoint. -/
def atEndpoint (e : Endpoint) (t : Target) (body : String) (a : App) : Result × App :=
  match e with
  | .documentation => (.page, a)
  | .startSession => a.startSession
  | .showSession id => a.withSession id fun s a => (compiled 200 (sessionView s), a)
  | .endSession id => a.endSession id
  | .showCatalog id => a.withSession id fun s a => (.done 200 (catalogView s.catalog), a)
  | .suggestJoins id => a.withSession id (suggestJoins t)
  | .reset id => a.bodyRequest .reset id body
  | .rename id => a.bodyRequest .rename id body
  | .addTable id => a.bodyRequest .table id body
  | .removeTable id table => a.withSession id (edit (.removeTable (.text table)))
  | .toggleColumn id => a.bodyRequest .column id body
  | .addJoin id => a.bodyRequest .join id body
  | .addFilter id => a.bodyRequest .filter id body
  | .addSort id => a.bodyRequest .sort id body
  | .addGroup id => a.bodyRequest .group id body
  | .addAggregate id => a.bodyRequest .aggregate id body
  | .removePart id kind item => a.withSession id (removePart kind item)
  | .setLimit id => a.bodyRequest .limit id body
  | .showSql id => a.withSession id fun s a => (compiled 200 (sqlView s), a)
  | .execute id => a.withSession id execute
  | .cancel id => a.withSession id cancel
  | .executions id => (a.executions id t, a)
  | .executionSummary id => (a.executionSummary id, a)

/-- The methods that pages of other origins may ask for. -/
def sharedMethods : List String :=
  ["DELETE", "GET", "HEAD", "OPTIONS", "PATCH", "POST", "PUT"]

/-- Answers a request where it leads. -/
def route (r : Request) (t : Target) (a : App) : Result × App :=
  match destination r.method t.path with
  | .endpoint e => a.atEndpoint e t r.body
  | .methodNotAllowed => (.refused 405 "Method Not Allowed", a)
  | .elsewhere => (.redirected, a)
  | .nowhere => (.refused 404 "Not Found", a)

/-- Answers a request, without the logs. A preflight is answered wherever it leads. -/
def answer (r : Request) (t : Target) (a : App) : Result × App :=
  match r.preflight? with
  | some method => (.preflight (sharedMethods.contains method), a)
  | none => a.route r t

/-- The starts of the paths whose requests are not logged. -/
def unloggedPaths : List String :=
  ["/api/docs", "/api/redoc", "/api/openapi.json"]

/-- Whether the request of a path is logged. -/
def isLogged (path : String) : Bool :=
  !unloggedPaths.any fun p => p.toList.isPrefixOf path.toList

/-- The most characters of a request body that are logged. -/
def maxLogged : Nat := 10000

/-- The rows that a request leaves in the request log. A preflight does not get as far as the log. -/
def logRows (r : Request) (path : String) (result : Result) : List RequestRow :=
  let row := RequestRow.mk r.method path result.toResponse.status
  let own := if isLogged path then [row (some (Text.shortened maxLogged r.body)) none] else []
  match result with
  | .preflight _ => []
  | .crashed => [row none none]
  | .failed kind message =>
    if 500 ≤ kind.status then row none (some (Json.print (Result.failureValue kind message))) :: own else own
  | _ => own

/-- A response without content to a request that asks for none. -/
def forMethod (method : String) (r : Response) : Response :=
  if method = "HEAD" then { r with content := .text "" } else r

/-- Answers a request. -/
def handle (r : Request) (a : App) : Response × App :=
  let t := Target.ofText r.target
  let (result, after) := a.answer r t
  let result := result.settled a.host
  (forMethod r.method result.toResponse,
    { after with requestLog := after.requestLog.map (· ++ logRows r (a.host.spell r.headers t.path) result) })

end App

end QueryCanvas.Http
