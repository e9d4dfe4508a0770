import QueryCanvas.Http.Target

/-!
# Routes

Which endpoint a path and a method lead to. A route is a pattern of fixed and free segments; a free
segment is any text without a slash. The first route that fits path and method is taken, so
`tables/T` comes before the general removal of a part. A path that fits under another method is
refused, one that would fit but for slashes at its end is redirected.
-/

namespace QueryCanvas.Http

/-- What the service offers. The documentation pages are counted as one. -/
inductive Endpoint where
  | documentation
  | startSession
  | showSession (session : String)
  | endSession (session : String)
  | showCatalog (session : String)
  | suggestJoins (session : String)
  | reset (session : String)
  | rename (session : String)
  | addTable (session : String)
  | removeTable (session table : String)
  | toggleColumn (session : String)
  | addJoin (session : String)
  | addFilter (session : String)
  | addSort (session : String)
  | addGroup (session : String)
  | addAggregate (session : String)
  | removePart (session kind id : String)
  | setLimit (session : String)
  | showSql (session : String)
  | execute (session : String)
  | cancel (session : String)
  | executions (session : String)
  | executionSummary (session : String)
  deriving DecidableEq, Repr

/-- A segment of a route: a fixed one, or a free one. -/
inductive Segment where
  | fixed (text : String)
  | free
  deriving DecidableEq, Repr

/-- A route: its methods, its segments, and the endpoint for the texts of its free segments. -/
structure Route where
  methods : List String
  segments : List Segment
  endpoint : List String → Endpoint

/-- The segments that every endpoint of the service starts with. -/
def basePath : List Segment :=
  [.fixed "api", .fixed "query-builder", .fixed "sessions"]

/-- A route of the service below one session. -/
def sessionRoute (method : String) (rest : List Segment) (endpoint : String → Endpoint) : Route :=
  ⟨[method], basePath ++ .free :: rest, fun args => endpoint (args.headD "")⟩

/-- The routes in the order they are tried. -/
def routes : List Route :=
  [⟨["GET", "HEAD"], [.fixed "api", .fixed "openapi.json"], fun _ => .documentation⟩,
   ⟨["GET", "HEAD"], [.fixed "api", .fixed "docs"], fun _ => .documentation⟩,
   ⟨["GET", "HEAD"], [.fixed "api", .fixed "docs", .fixed "oauth2-redirect"], fun _ => .documentation⟩,
   ⟨["GET", "HEAD"], [.fixed "api", .fixed "redoc"], fun _ => .documentation⟩,
   ⟨["POST"], basePath, fun _ => .startSession⟩,
   sessionRoute "GET" [] .showSession,
   sessionRoute "DELETE" [] .endSession,
   sessionRoute "GET" [.fixed "catalog"] .showCatalog,
   sessionRoute "GET" [.fixed "catalog", .fixed "joins"] .suggestJoins,
   sessionRoute "POST" [.fixed "reset"] .reset,
   sessionRoute "PUT" [.fixed "name"] .rename,
   sessionRoute "POST" [.fixed "tables"] .addTable,
   ⟨["DELETE"], basePath ++ [.free, .fixed "tables", .free], fun args =>
      .removeTable (args.headD "") (args.getD 1 "")⟩,
   sessionRoute "POST" [.fixed "columns", .fixed "toggle"] .toggleColumn,
   sessionRoute "POST" [.fixed "joins"] .addJoin,
   sessionRoute "POST" [.fixed "filters"] .addFilter,
   sessionRoute "POST" [.fixed "sorts"] .addSort,
   sessionRoute "POST" [.fixed "groups"] .addGroup,
   sessionRoute "POST" [.fixed "aggregates"] .addAggregate,
   ⟨["DELETE"], basePath ++ [.free, .free, .free], fun args =>
      .removePart (args.headD "") (args.getD 1 "") (args.getD 2 "")⟩,
   sessionRoute "PUT" [.fixed "limit"] .setLimit,
   sessionRoute "GET" [.fixed "sql"] .showSql,
   sessionRoute "POST" [.fixed "execute"] .execute,
   sessionRoute "POST" [.fixed "cancel"] .cancel,
   sessionRoute "GET" [.fixed "executions"] .executions,
   sessionRoute "GET" [.fixed "executions", .fixed "summary"] .executionSummary]

/-- The texts of the free segments, if segments fit a pattern. One line break may follow a fixed
segment at the very end. -/
def fit : List Segment → List (List Char) → Option (List String)
  | [], [] => some []
  | .fixed s :: ps, cs :: rest =>
    if cs = s.toList ∨ (rest.isEmpty ∧ cs = s.toList ++ ['\n']) then fit ps rest else none
  | .free :: ps, cs :: rest => if cs.isEmpty then none else (fit ps rest).map (String.ofList cs :: ·)
  | _, _ => none

/-- The texts of the free segments of a route, if a path fits it. -/
def Route.fit? (r : Route) (path : List Char) : Option (List String) :=
  match splitAtChar '/' path with
  | [] :: segments => fit r.segments segments
  | _ => none

/-- Where a request leads. -/
inductive Destination where
  | endpoint (e : Endpoint)
  | methodNotAllowed
  | elsewhere
  | nowhere
  deriving DecidableEq, Repr

/-- The endpoint of the first route that fits method and path. -/
def endpoint? (method : String) (path : List Char) : Option Endpoint :=
  routes.findSome? fun r =>
    if r.methods.contains method then (r.fit? path).map r.endpoint else none

/-- Whether a path fits some route under some method. -/
def isKnown (path : List Char) : Bool :=
  routes.any fun r => (r.fit? path).isSome

/-- A path with a slash at its end if it had none, and without them if it had. -/
def otherSlash (path : List Char) : List Char :=
  if path.getLast? = some '/' then (path.reverse.dropWhile (· == '/')).reverse else path ++ ['/']

/-- Where a method and a path lead. -/
def destination (method : String) (path : List Char) : Destination :=
  match endpoint? method path with
  | some e => .endpoint e
  | none =>
    if isKnown path then .methodNotAllowed
    else if path ≠ ['/'] ∧ isKnown (otherSlash path) then .elsewhere
    else .nowhere

end QueryCanvas.Http
