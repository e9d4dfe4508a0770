import QueryCanvas.Proofs.Http.Answer
import QueryCanvas.Proofs.Http.Refusal
import QueryCanvas.Proofs.Http.Routing

/-!
# What requests leave in the log

Two parts of the service write rows: the log of a request, once there is a response, and whoever turns a failure into
a response. A failure of the warehouse goes through both and leaves two rows. A crash passes the log of the request by
and leaves the other row only, and a preflight is answered in front of both. Every row names the decoded path as the
host spells it.

* `Answers`: requests that are answered one after the other, while sessions go on in between.
* `Exchange.rows`: the rows of a request, by its response.
* `requests_logged`: the log grows by the rows of the requests, in order. There is one row for each request, with its
  method, its path and the status of its response, exactly if no failure of the warehouse and no preflight is among them
  and the host spells every path as it is.
* `isShown_usual`: which paths the usual host spells as they are.
* `executeLost_twice`: a request that leaves two rows.
-/

namespace QueryCanvas.Http

variable {a b : App} {r : Request} {t : Target} {result : Result} {host : Host}

/-! ## The rows of a request -/

/-- The decoded path of a request as a host spells it. -/
def Request.spelled (r : Request) (host : Host) : String :=
  host.spell r.headers (Target.ofText r.target).path

/-- A request and the response to it. -/
structure Exchange where
  request : Request
  response : Response

/-- What a response carries, as the log shows it. -/
def Content.shown : Content → String
  | .json v => Json.print v
  | .text s => s

namespace Exchange

/-- The decoded path of the request. -/
def path (x : Exchange) : String :=
  String.ofList (Target.ofText x.request.target).path

/-- The path of the request as a host spells it. -/
def spelled (host : Host) (x : Exchange) : String :=
  x.request.spelled host

/-- A row about an exchange, with what it shows of the body and of the response. -/
def row (host : Host) (x : Exchange) (body response : Option String) : RequestRow :=
  ⟨x.request.method, x.spelled host, x.response.status, body, response⟩

/-- The row of the log of requests, unless the path is one of those that are left out. -/
def ownRows (host : Host) (x : Exchange) : List RequestRow :=
  if App.isLogged (x.spelled host) then
    [x.row host (some (Text.shortened App.maxLogged x.request.body)) none]
  else []

/-- **The rows of an exchange**: a preflight has none, a crash has a row that takes the place of its own, and a failure
of the warehouse has one in front of it. -/
def rows (host : Host) (x : Exchange) : List RequestRow :=
  if x.request.preflight?.isSome then []
  else if x.response.status < 500 then x.ownRows host
  else if x.response.status = 500 then [x.row host none none]
  else x.row host none (some x.response.content.shown) :: x.ownRows host

end Exchange

/-- The exchange that a request leads to. -/
def App.exchange (a : App) (r : Request) : Exchange :=
  ⟨r, (a.handle r).1⟩

/-- No kind of failure has the status of a crash. -/
theorem status_kind_ne (kind : FaultKind) : kind.status ≠ 500 := by
  cases kind with
  | foreign name isTimeout isExecution => cases isExecution <;> simp [FaultKind.status, FaultKind.isExecution]
  | _ => decide

/-- Nothing fails that asks for no content. -/
theorem not_failed_of_head (hmethod : r.method = "HEAD") (kind : FaultKind) (message : String) :
    (a.answer r t).1 ≠ .failed kind message := by
  unfold App.answer App.route
  split
  next => exact nofun
  next =>
    rw [hmethod]
    cases hdest : destination "HEAD" t.path with
    | endpoint e =>
      rw [endpoint?_head (destination_eq_endpoint.1 hdest)]
      exact nofun
    | methodNotAllowed | elsewhere | nowhere => exact nofun

theorem status_forMethod (method : String) (response : Response) :
    (App.forMethod method response).status = response.status := by
  unfold App.forMethod
  split <;> rfl

/-- The exchange that a response leads to. -/
def Request.answered (r : Request) (response : Response) : Exchange :=
  ⟨r, App.forMethod r.method response⟩

section Rows

variable (hpreflight : r.preflight? = none)

include hpreflight

theorem rows_below {response : Response} (h : response.status < 500) :
    (r.answered response).rows host = if App.isLogged (r.spelled host) then
      [⟨r.method, r.spelled host, response.status, some (Text.shortened App.maxLogged r.body), none⟩] else [] := by
  have hstatus : (r.answered response).response.status = response.status := status_forMethod r.method response
  have hnone : (r.answered response).request.preflight? = none := hpreflight
  rw [Exchange.rows, hnone, if_neg (by simp), if_pos (hstatus.trans_lt h), Exchange.ownRows, Exchange.row, hstatus]
  rfl

theorem rows_crashed {response : Response} (h : response.status = 500) :
    (r.answered response).rows host = [⟨r.method, r.spelled host, 500, none, none⟩] := by
  have hstatus : (r.answered response).response.status = 500 := (status_forMethod r.method response).trans h
  have hnone : (r.answered response).request.preflight? = none := hpreflight
  rw [Exchange.rows, hnone, if_neg (by simp), if_neg (by omega), if_pos hstatus, Exchange.row, hstatus]
  rfl

theorem rows_failed {response : Response} (h : 500 < response.status) (hmethod : r.method ≠ "HEAD") :
    (r.answered response).rows host =
      ⟨r.method, r.spelled host, response.status, none, some response.content.shown⟩ ::
        if App.isLogged (r.spelled host) then
          [⟨r.method, r.spelled host, response.status, some (Text.shortened App.maxLogged r.body), none⟩] else [] := by
  have hresponse : App.forMethod r.method response = response := by rw [App.forMethod, if_neg hmethod]
  rw [Request.answered, hresponse, Exchange.rows, hpreflight, if_neg (by simp),
    if_neg (show ¬response.status < 500 by omega), if_neg (show ¬response.status = 500 by omega)]
  rfl

/-- **What is written of a result** is what its exchange shows. -/
theorem logRows_settled (husual : result.IsUsual)
    (hhead : r.method = "HEAD" → ∀ kind message, result ≠ .failed kind message) :
    App.logRows r (r.spelled host) (result.settled host) = (r.answered (result.settled host).toResponse).rows host := by
  have hcrashed : App.logRows r (r.spelled host) .crashed = (r.answered Result.crashed.toResponse).rows host := by
    rw [rows_crashed hpreflight rfl]
    rfl
  cases result with
  | done n v =>
    by_cases hwritten : Json.encodable v = true
    · rw [Result.settled, if_pos hwritten]
      exact (rows_below hpreflight (show (Result.done n v).toResponse.status < 500 from husual)).symm
    · rw [Result.settled, if_neg hwritten]
      exact hcrashed
  | refused n detail =>
    exact (rows_below hpreflight (show (Result.refused n detail).toResponse.status < 500 from husual)).symm
  | page => exact (rows_below hpreflight (show Result.page.toResponse.status < 500 by decide)).symm
  | redirected => exact (rows_below hpreflight (show Result.redirected.toResponse.status < 500 by decide)).symm
  | preflight isAllowed => cases husual
  | crashed => exact hcrashed
  | invalid issues =>
    by_cases hshowable : Result.isShowable host issues = true
    · rw [Result.settled, if_pos hshowable]
      exact (rows_below hpreflight (show 422 < 500 by decide)).symm
    · rw [Result.settled, if_neg hshowable]
      exact hcrashed
  | failed kind message =>
    by_cases hbuilder : kind.isBuilder = true
    · rw [Result.settled, if_pos hbuilder]
      by_cases hbelow : kind.status < 500
      · rw [rows_below hpreflight hbelow]
        simp only [App.logRows, if_neg (Nat.not_le_of_lt hbelow), Result.toResponse]
      · have hne := status_kind_ne kind
        rw [rows_failed hpreflight (show 500 < kind.status by omega) fun hm => hhead hm kind message rfl]
        simp only [App.logRows, if_pos (Nat.le_of_not_lt hbelow), Result.toResponse, Content.shown]
    · rw [Result.settled, if_neg hbuilder]
      exact hcrashed

end Rows

/-- **A request leaves the rows of its exchange.** -/
theorem requestLog_handle (a : App) (r : Request) :
    (a.handle r).2.requestLog = a.requestLog.map (· ++ (a.exchange r).rows a.host) := by
  cases hpreflight : r.preflight? with
  | none =>
    have hanswer := unlogged_answer a hpreflight (Target.ofText r.target)
    have hrows : App.logRows r (r.spelled a.host) ((a.answer r (Target.ofText r.target)).1.settled a.host) = _ :=
      logRows_settled hpreflight hanswer.usual not_failed_of_head
    rw [← hanswer.log]
    exact congrArg (fun rows => (a.answer r (Target.ofText r.target)).2.requestLog.map (· ++ rows)) hrows
  | some method =>
    have hanswer : a.answer r (Target.ofText r.target) = (.preflight (App.sharedMethods.contains method), a) := by
      rw [App.answer, hpreflight]
    have hnone : (a.exchange r).rows a.host = [] := by
      have hasked : (a.exchange r).request.preflight? = some method := hpreflight
      rw [Exchange.rows, hasked]
      rfl
    rw [hnone]
    simp only [App.handle, hanswer, Result.settled, App.logRows]

/-! ## Preflights -/

/-- **A preflight is told by its status** from any other request with its method. -/
def Exchange.IsAnswered (x : Exchange) : Prop :=
  x.request.method = "OPTIONS" → (x.request.preflight?.isSome = true ↔ x.response.status ∈ [200, 400])

theorem isAnswered_exchange (a : App) (r : Request) : (a.exchange r).IsAnswered := by
  intro hmethod
  have hmethod : r.method = "OPTIONS" := hmethod
  show r.preflight?.isSome = true ↔ (a.handle r).1.status ∈ [200, 400]
  rw [status_handle]
  cases hpreflight : r.preflight? with
  | some method =>
    rw [App.answer, hpreflight]
    refine iff_of_true rfl ?_
    show (Result.preflight (App.sharedMethods.contains method)).status a.host ∈ [200, 400]
    cases App.sharedMethods.contains method with
    | false => exact List.mem_cons_of_mem _ (List.mem_singleton.2 rfl)
    | true => exact List.mem_cons.2 (.inl rfl)
  | none =>
    have hroute : a.answer r (Target.ofText r.target) = a.route r (Target.ofText r.target) := by
      rw [App.answer, hpreflight]
    rw [hroute, App.route, hmethod]
    refine iff_of_false (by simp) ?_
    cases hdest : destination "OPTIONS" (Target.ofText r.target).path with
    | endpoint e =>
      rw [destination_eq_endpoint, endpoint?_options] at hdest
      cases hdest
    | methodNotAllowed | elsewhere | nowhere =>
      simp [Result.status, Result.settled, Result.toResponse]

/-! ## One row for each request -/

namespace Exchange

/-- A row that says of a request what is true of it. -/
structure IsTold (x : Exchange) (row : RequestRow) : Prop where
  method : row.method = x.request.method
  path : row.path = x.path
  status : row.status = x.response.status

/-- The host spells the path as it is. -/
def IsShown (host : Host) (x : Exchange) : Prop :=
  x.spelled host = x.path

/-- **A request that is told by one row**: it is no preflight, the warehouse did not fail, and the host spells its path
as it is. -/
structure IsPlain (host : Host) (x : Exchange) : Prop where
  noPreflight : x.request.preflight? = none
  noFailure : x.response.status ≤ 500
  shown : x.IsShown host

variable {x : Exchange} {xs : List Exchange}

theorem mem_ownRows {row : RequestRow} (h : row ∈ x.ownRows host) : ∃ body, row = x.row host body none := by
  unfold ownRows at h
  split at h
  · exact ⟨_, List.mem_singleton.1 h⟩
  · cases h

/-- **Every row** shows the method, the path as the host spells it, and the status; a preflight has none. -/
theorem mem_rows {row : RequestRow} (h : row ∈ x.rows host) :
    x.request.preflight? = none ∧ ∃ body response, row = x.row host body response := by
  unfold rows at h
  split at h
  next => cases h
  next hpreflight =>
    refine ⟨by simpa using hpreflight, ?_⟩
    split at h
    · obtain ⟨body, hrow⟩ := mem_ownRows h
      exact ⟨body, none, hrow⟩
    · split at h
      · exact ⟨none, none, List.mem_singleton.1 h⟩
      · rcases List.mem_cons.1 h with hrow | hown
        · exact ⟨none, _, hrow⟩
        · obtain ⟨body, hrow⟩ := mem_ownRows hown
          exact ⟨body, none, hrow⟩

/-- **How many rows** there are for a path that is logged. -/
theorem length_rows (h : App.isLogged (x.spelled host) = true) : (x.rows host).length =
    if x.request.preflight?.isSome then 0 else if 500 < x.response.status then 2 else 1 := by
  have hown : (x.ownRows host).length = 1 := by rw [ownRows, if_pos h, List.length_singleton]
  unfold rows
  split
  next => rfl
  next =>
    split
    next hbelow => rw [hown, if_neg (by omega)]
    next habove =>
      split
      next hcrash => rw [List.length_singleton, if_neg (by omega)]
      next hother => rw [List.length_cons, hown, if_pos (by omega)]

/-- A request is told by its rows if its path is shown as it is. -/
theorem isTold_of_mem_rows {row : RequestRow} (h : row ∈ x.rows host) (hshown : x.IsShown host) : x.IsTold row := by
  obtain ⟨-, body, response, rfl⟩ := mem_rows h
  exact ⟨rfl, hshown, rfl⟩

/-- **One request** is told by the one row that it leaves exactly if it is plain. -/
theorem isPlain_iff (hpath : App.isLogged (x.spelled host) = true) :
    (∃ row, x.rows host = [row] ∧ x.IsTold row) ↔ x.IsPlain host := by
  constructor
  · rintro ⟨row, hrows, htold⟩
    have hlength := length_rows hpath
    have hmem : row ∈ x.rows host := by
      rw [hrows]
      exact List.mem_singleton_self row
    obtain ⟨hpreflight, body, response, rfl⟩ := mem_rows hmem
    rw [hrows, hpreflight] at hlength
    refine ⟨hpreflight, ?_, htold.path⟩
    by_contra hfailed
    simp [Nat.lt_of_not_le hfailed] at hlength
  · rintro ⟨hpreflight, hstatus, hshown⟩
    have hlength := length_rows hpath
    rw [hpreflight, if_neg (by simp), if_neg (by omega)] at hlength
    obtain ⟨row, hrow⟩ := List.length_eq_one_iff.1 hlength
    exact ⟨row, hrow, isTold_of_mem_rows (by rw [hrow]; exact List.mem_singleton_self row) hshown⟩

theorem length_le_rows (h : ∀ x ∈ xs, x.rows host ≠ []) : xs.length ≤ (xs.flatMap (rows host)).length := by
  induction xs with
  | nil => exact Nat.le_refl _
  | cons x xs ih =>
    obtain ⟨hx, hxs⟩ := List.forall_mem_cons.1 h
    have hpos := List.length_pos_of_ne_nil hx
    have hle := ih hxs
    rw [List.flatMap_cons, List.length_append, List.length_cons]
    omega

/-- As many rows as requests are one row for each, if each has some. -/
theorem told_of_length (h : ∀ x ∈ xs, x.rows host ≠ []) (htold : List.Forall₂ IsTold xs (xs.flatMap (rows host))) :
    ∀ x ∈ xs, ∃ row, x.rows host = [row] ∧ x.IsTold row := by
  induction xs with
  | nil => exact nofun
  | cons x xs ih =>
    obtain ⟨hx, hxs⟩ := List.forall_mem_cons.1 h
    have hpos := List.length_pos_of_ne_nil hx
    have hle := length_le_rows hxs
    have hlength := htold.length_eq
    rw [List.flatMap_cons] at htold hlength
    rw [List.length_append, List.length_cons] at hlength
    obtain ⟨row, hrow⟩ := List.length_eq_one_iff.1 (show (x.rows host).length = 1 by omega)
    rw [hrow] at htold
    cases htold with
    | cons hfirst hrest => exact List.forall_mem_cons.2 ⟨⟨row, hrow, hfirst⟩, ih hxs hrest⟩

/-- Every request of several that are told is told by a row. -/
theorem exists_row_of_told {rows : List RequestRow} (h : List.Forall₂ IsTold xs rows) (hx : x ∈ xs) :
    ∃ row ∈ rows, x.IsTold row := by
  induction h with
  | nil => cases hx
  | @cons y row xs rows hfirst hrest ih =>
    rcases List.mem_cons.1 hx with rfl | hx
    · exact ⟨row, List.mem_cons_self, hfirst⟩
    · obtain ⟨row, hrow, htold⟩ := ih hx
      exact ⟨row, List.mem_cons_of_mem _ hrow, htold⟩

/-- Whoever is told by the rows of some requests is no preflight: the others with its method have other statuses. -/
theorem noPreflight_of_told {ys : List Exchange} (hx : x.IsAnswered) (hys : ∀ y ∈ ys, y.IsAnswered) {row : RequestRow}
    (hrow : row ∈ ys.flatMap (rows host)) (htold : x.IsTold row) : x.request.preflight? = none := by
  rw [Option.eq_none_iff_forall_ne_some]
  intro method hpreflight
  obtain ⟨y, hy, hyrow⟩ := List.mem_flatMap.1 hrow
  obtain ⟨hnone, body, response, rfl⟩ := mem_rows hyrow
  have hmethod : x.request.method = "OPTIONS" := method_of_preflight? hpreflight
  have hstatus := (hx hmethod).1 (by rw [hpreflight]; rfl)
  rw [← htold.status] at hstatus
  have := (hys y hy (htold.method.trans hmethod)).2 hstatus
  rw [hnone] at this
  cases this

/-- **Each request is told by one row** exactly if all are plain. -/
theorem told_iff (hpaths : ∀ x ∈ xs, App.isLogged (x.spelled host) = true) (hanswered : ∀ x ∈ xs, x.IsAnswered) :
    List.Forall₂ IsTold xs (xs.flatMap (rows host)) ↔ ∀ x ∈ xs, x.IsPlain host := by
  constructor
  · intro htold
    have hpreflight : ∀ x ∈ xs, x.request.preflight? = none := fun x hx => by
      obtain ⟨row, hrow, hx'⟩ := exists_row_of_told htold hx
      exact noPreflight_of_told (hanswered x hx) hanswered hrow hx'
    have hsome : ∀ x ∈ xs, x.rows host ≠ [] := fun x hx hnil => by
      have hlength := length_rows (hpaths x hx)
      rw [hnil, hpreflight x hx, List.length_nil, if_neg (by simp)] at hlength
      split at hlength <;> omega
    exact fun x hx => (isPlain_iff (hpaths x hx)).1 (told_of_length hsome htold x hx)
  · intro hplain
    clear hanswered
    induction xs with
    | nil => exact .nil
    | cons x xs ih =>
      obtain ⟨hx, hxs⟩ := List.forall_mem_cons.1 hplain
      obtain ⟨hpath, hrest⟩ := List.forall_mem_cons.1 hpaths
      obtain ⟨row, hrow, htold⟩ := (isPlain_iff hpath).2 hx
      rw [List.flatMap_cons, hrow]
      exact .cons htold (ih hrest hxs)

/-- The characters that the usual host encodes, or leaves out. -/
def respelled : List Char :=
  ['?', '#', '\t', '\n', '\r']

theorem respelledChar_eq_self {c : Char} (h : c ∉ respelled) : respelledChar c = [c] := by
  unfold respelledChar
  split <;> simp_all [respelled]

/-- What a character is spelled with needs no spelling of its own. -/
theorem not_mem_respelled {c d : Char} (h : c ∈ respelledChar d) : c ∉ respelled := by
  unfold respelledChar at h
  split at h
  · simp at h
    rcases h with rfl | rfl | rfl <;> decide
  · simp at h
    rcases h with rfl | rfl | rfl <;> decide
  all_goals simp_all [respelled]

/-- **The usual host** spells a path as it is exactly if none of these characters is in it. -/
theorem isShown_usual : x.IsShown .usual ↔ ∀ c ∈ x.path.toList, c ∉ respelled := by
  unfold IsShown spelled Request.spelled path
  rw [String.toList_ofList]
  generalize (Target.ofText x.request.target).path = cs
  constructor
  · intro h c hc
    rw [← String.ofList_injective h, List.mem_flatMap] at hc
    obtain ⟨d, -, hd⟩ := hc
    exact not_mem_respelled hd
  · intro h
    refine congrArg String.ofList ?_
    rw [List.flatMap_congr fun c hc => respelledChar_eq_self (h c hc), List.flatMap_singleton']

end Exchange

/-! ## Requests one after the other -/

/-- **Requests that are answered one after the other**: what they lead to. In between sessions go on, and the
warehouse, the executions that are recorded and the clock may change. -/
inductive Answers (a : App) : List Exchange → App → Prop
  | start : Answers a [] a
  | handled {xs : List Exchange} {b : App} (before : Answers a xs b) (r : Request) :
      Answers a (xs ++ [b.exchange r]) (b.handle r).2
  | meanwhile {xs : List Exchange} {b : App} (before : Answers a xs b) (key : String) (e : Event) :
      Answers a xs (b.meanwhile key e)
  | elsewhere {xs : List Exchange} {b : App} (before : Answers a xs b) (warehouse : Warehouse) (audit : AuditStore)
      (clock : Clock) : Answers a xs { b with warehouse := warehouse, audit := audit, clock := clock }

section Answers

variable {xs : List Exchange}

theorem Answers.sameHost (h : Answers a xs b) : b.host = a.host := by
  induction h with
  | start => rfl
  | handled before r ih => exact (host_handle _ r).trans ih
  | meanwhile before key e ih => exact ih
  | elsewhere before warehouse audit clock ih => exact ih

theorem Answers.answered (h : Answers a xs b) : ∀ x ∈ xs, x.IsAnswered := by
  induction h with
  | start => exact nofun
  | handled before r ih =>
    intro x hx
    rcases List.mem_append.1 hx with hx | hx
    · exact ih x hx
    · rw [List.mem_singleton.1 hx]
      exact isAnswered_exchange _ r
  | meanwhile before key e ih => exact ih
  | elsewhere before warehouse audit clock ih => exact ih

/-- **The log grows** by the rows of the requests, in order. -/
theorem Answers.requestLog (h : Answers a xs b) :
    b.requestLog = a.requestLog.map (· ++ xs.flatMap (Exchange.rows a.host)) := by
  induction h with
  | start => simp
  | handled before r ih =>
    rw [requestLog_handle, before.sameHost, ih, Option.map_map]
    simp [Function.comp_def, List.append_assoc]
  | meanwhile before key e ih => exact ih
  | elsewhere before warehouse audit clock ih => exact ih

/-- **One row for each request.** Whatever requests are answered one after the other, on whatever host, to paths whose
requests are logged, the log grows by their rows, in order. A preflight has no row, a request that ends in a failure of
the warehouse has two, and any other has one; each row has the method, the path as the host spells it, and the status of
the response. So there is one row for each request, with its path as it is, exactly if no preflight and no failure of
the warehouse is among them and the host spells every path as it is; and a request is told by the one row that it
leaves exactly if it is of this kind itself. -/
theorem requests_logged {rows : List RequestRow} (h : Answers a xs b) (hlog : a.requestLog = some rows)
    (hpaths : ∀ x ∈ xs, App.isLogged (x.spelled a.host) = true) :
    b.requestLog = some (rows ++ xs.flatMap (Exchange.rows a.host)) ∧
      (∀ x ∈ xs, (x.rows a.host).length =
          (if x.request.preflight?.isSome then 0 else if 500 < x.response.status then 2 else 1) ∧
        (∀ row ∈ x.rows a.host, ∃ body response, row = x.row a.host body response) ∧
        ((∃ row, x.rows a.host = [row] ∧ x.IsTold row) ↔ x.IsPlain a.host)) ∧
      ((∃ new, b.requestLog = some (rows ++ new) ∧ List.Forall₂ Exchange.IsTold xs new) ↔
        ∀ x ∈ xs, x.IsPlain a.host) := by
  have hgrown : b.requestLog = some (rows ++ xs.flatMap (Exchange.rows a.host)) := by
    rw [h.requestLog, hlog, Option.map_some]
  refine ⟨hgrown, fun x hx => ⟨Exchange.length_rows (hpaths x hx), fun row hrow => (Exchange.mem_rows hrow).2,
    Exchange.isPlain_iff (hpaths x hx)⟩, ?_⟩
  rw [← Exchange.told_iff hpaths h.answered, hgrown]
  constructor
  · rintro ⟨new, hnew, htold⟩
    rw [List.append_cancel_left (Option.some.inj hnew)]
    exact htold
  · intro htold
    exact ⟨_, rfl, htold⟩

end Answers

/-- A request for the statement of the session. -/
def sqlAsked : Request :=
  ⟨"GET", "/api/query-builder/sessions/id-1/sql", "", []⟩

/-- The statement is shown, and one row tells of it. -/
theorem sqlAsked_once : ∃ rows row, ordersServed.requestLog = some rows ∧
    (ordersServed.handle sqlAsked).2.requestLog = some (rows ++ [row]) ∧
    row.method = "GET" ∧ row.path = "/api/query-builder/sessions/id-1/sql" ∧ row.status = 200 := by
  have hopen : ordersServed.requestLog.isSome = true := by decide +kernel
  have hpath : (ordersServed.exchange sqlAsked).path = "/api/query-builder/sessions/id-1/sql" := by decide +kernel
  have hstatus : (ordersServed.exchange sqlAsked).response.status = 200 := by decide +kernel
  have hshown : (ordersServed.exchange sqlAsked).IsShown ordersServed.host := by
    have hplain : ("/api/query-builder/sessions/id-1/sql".toList.all fun c => !Exchange.respelled.contains c) = true := by
      decide +kernel
    rw [host_ordersServed, Exchange.isShown_usual, hpath]
    intro c hc hmem
    have := List.all_eq_true.1 hplain c hc
    simp [hmem] at this
  have hlogged : App.isLogged ((ordersServed.exchange sqlAsked).spelled ordersServed.host) = true := by
    rw [show _ = _ from hshown, hpath]
    decide +kernel
  obtain ⟨rows, hrows⟩ := Option.isSome_iff_exists.1 hopen
  obtain ⟨new, hnew, htold⟩ := (requests_logged (.handled .start sqlAsked) hrows
    (List.forall_mem_singleton.2 hlogged)).2.2.2 (List.forall_mem_singleton.2 ⟨rfl, by omega, hshown⟩)
  cases htold with
  | @cons _ row _ new htold hnil =>
    cases hnil
    exact ⟨rows, row, hrows, hnew, htold.method, htold.path.trans hpath, htold.status.trans hstatus⟩

/-- A service with one session on a warehouse that is lost when it is asked for rows. -/
def lostServed : App :=
  (((App.start .usual { ordersWarehouse with answers := [.fault ⟨.connection, some "gone"⟩] } 5).handle
    (posted "" [])).2.handle (posted "/id-1/tables" [("table", "orders")])).2

/-- A request for the rows of the statement. -/
def executeAsked : Request :=
  ⟨"POST", "/api/query-builder/sessions/id-1/execute", "", []⟩

/-- **A request that leaves two rows**: the failure of the warehouse leaves one, and the log of requests another. -/
theorem executeLost_twice : App.isLogged (lostServed.exchange executeAsked).path = true ∧
    (lostServed.handle executeAsked).1.status = 502 ∧
    lostServed.requestLog.map List.length = some 2 ∧
    ((lostServed.handle executeAsked).2.requestLog.map fun rows => rows.drop 2) = some
      [⟨"POST", "/api/query-builder/sessions/id-1/execute", 502, none, some
        (Json.print (Result.failureValue .execution "gone"))⟩,
       ⟨"POST", "/api/query-builder/sessions/id-1/execute", 502, some "", none⟩] := by
  decide +kernel

end QueryCanvas.Http
