import QueryCanvas.Http.App
import QueryCanvas.Proofs.Http.Service
import QueryCanvas.Proofs.Http.Target

/-!
# Where requests lead

What the routes say of some methods and paths.

* `endpoint?_head`: nothing but documentation is there for a method that asks for no content.
* `destination_removeTable`, `destination_removePart`: a table and an item of a session are removed at a path with the
  name of the table or the id of the item as its last segment.
* `isKnown_slashed`, `isKnown_unnamed`: a name with a slash in it, or none at all, leads nowhere.
-/

namespace QueryCanvas.Http

variable {method : String} {path : List Char} {e : Endpoint} {segments : List (List Char)}

/-! ## Destinations -/

/-- A path that fits no route leads nowhere, or to another path. -/
theorem destination_of_unknown (method : String) (h : isKnown path = false) :
    destination method path = .elsewhere ∨ destination method path = .nowhere := by
  have hnone : endpoint? method path = none := by
    rw [endpoint?, List.findSome?_eq_none_iff]
    intro route hroute
    have hfit : (route.fit? path).isSome = false := by
      rw [Bool.eq_false_iff]
      intro hsome
      rw [isKnown, List.any_eq_false] at h
      exact h route hroute hsome
    rw [Option.isSome_eq_false_iff, Option.isNone_iff_eq_none] at hfit
    rw [hfit, Option.map_none, ite_self]
  unfold destination
  rw [hnone, h]
  simp only [Bool.false_eq_true, if_false]
  split
  · exact .inl rfl
  · exact .inr rfl

/-! ## Methods that ask for no content -/

/-- Only documentation is there for a method that asks for no content. -/
theorem endpoint?_head (h : endpoint? "HEAD" path = some e) : e = .documentation := by
  have hroutes : ∀ route ∈ routes, "HEAD" ∈ route.methods → ∀ args, route.endpoint args = .documentation := by
    simp [routes, sessionRoute]
  obtain ⟨route, hmem, hroute⟩ := List.exists_of_findSome?_eq_some h
  by_cases hhead : "HEAD" ∈ route.methods
  · rw [if_pos (List.contains_iff_mem.2 hhead)] at hroute
    obtain ⟨args, -, rfl⟩ := Option.map_eq_some_iff.1 hroute
    exact hroutes route hmem hhead args
  · rw [if_neg (mt List.contains_iff_mem.1 hhead)] at hroute
    cases hroute

/-- What takes a body answers with content. -/
theorem forMethod_of_body {b : String × BodyKind} (hdest : destination method path = .endpoint e)
    (hbody : e.body? = some b) (response : Response) : App.forMethod method response = response := by
  have hmethod : method ≠ "HEAD" := by
    rintro rfl
    rw [endpoint?_head (destination_eq_endpoint.1 hdest)] at hbody
    cases hbody
  rw [App.forMethod, if_neg hmethod]

/-! ## Paths of sessions -/

/-- A path below the sessions: their own segments, and some more. -/
def sessionPath (segments : List (List Char)) : List Char :=
  ['/'].intercalate ([] :: "api".toList :: "query-builder".toList :: "sessions".toList :: segments)

theorem splitAtChar_sessionPath (h : ∀ s ∈ segments, '/' ∉ s) (last : List Char) :
    splitAtChar '/' (sessionPath (segments ++ [last])) =
      [] :: "api".toList :: "query-builder".toList :: "sessions".toList :: (segments ++ splitAtChar '/' last) := by
  have hbefore : ∀ s ∈ [] :: "api".toList :: "query-builder".toList :: "sessions".toList :: segments, '/' ∉ s :=
    List.forall_mem_cons.2 ⟨by decide, List.forall_mem_cons.2 ⟨by decide, List.forall_mem_cons.2 ⟨by decide,
      List.forall_mem_cons.2 ⟨by decide, h⟩⟩⟩⟩
  exact splitAtChar_last hbefore last

theorem fit?_of_split (route : Route) (h : splitAtChar '/' path = [] :: segments) :
    route.fit? path = fit route.segments segments := by
  rw [Route.fit?, h]

/-- What fits has as many segments. -/
theorem length_of_fit {pattern : List Segment} {args : List String} (h : fit pattern segments = some args) :
    segments.length = pattern.length := by
  induction pattern, segments using fit.induct generalizing args with
  | case1 => rfl
  | case2 s ps cs rest hfixed ih =>
    rw [fit, if_pos hfixed] at h
    rw [List.length_cons, List.length_cons, ih h]
  | case3 s ps cs rest hfixed =>
    rw [fit, if_neg hfixed] at h
    cases h
  | case4 ps cs rest hempty =>
    rw [fit, if_pos hempty] at h
    cases h
  | case5 ps cs rest hempty ih =>
    rw [fit, if_neg hempty] at h
    obtain ⟨args, hargs, -⟩ := Option.map_eq_some_iff.1 h
    rw [List.length_cons, List.length_cons, ih hargs]
  | case6 pattern segments =>
    rw [fit] at h
    · cases h
    all_goals assumption

/-- No route has more segments than those for what belongs to a session. -/
theorem isKnown_of_long (hsplit : splitAtChar '/' path = [] :: segments) (hlong : 6 < segments.length) :
    isKnown path = false := by
  have hroutes : ∀ route ∈ routes, route.segments.length ≤ 6 := by decide
  rw [isKnown, List.any_eq_false]
  intro route hroute hfit
  obtain ⟨args, hargs⟩ := Option.isSome_iff_exists.1 hfit
  rw [fit?_of_split route hsplit] at hargs
  have hlength := length_of_fit hargs
  have hle := hroutes route hroute
  omega

section Removal

variable {session last : List Char}

theorem splitAtChar_whole (h : '/' ∉ last) : splitAtChar '/' last = [last] := by
  rw [← splitAtChar_joined (List.forall_mem_singleton.2 h) (List.cons_ne_nil _ _), List.intercalate_singleton]

/-- The path of something of a session is split at the slashes of its name. -/
theorem splitAtChar_removal {kind : List Char} (hs : '/' ∉ session) (hk : '/' ∉ kind) (last : List Char) :
    splitAtChar '/' (sessionPath [session, kind, last]) = [] :: "api".toList :: "query-builder".toList ::
      "sessions".toList :: session :: kind :: splitAtChar '/' last := by
  have hbefore : ∀ s ∈ [session, kind], '/' ∉ s := List.forall_mem_cons.2 ⟨hs, List.forall_mem_singleton.2 hk⟩
  exact splitAtChar_sessionPath hbefore last

/-- What is there for one method is what the routes of this method lead to. -/
theorem endpoint?_eq_findSome? (method : String) (path : List Char) : endpoint? method path =
    (routes.filter (·.methods.contains method)).findSome? fun r => (r.fit? path).map r.endpoint := by
  unfold endpoint?
  induction routes with
  | nil => rfl
  | cons r rs ih =>
    rw [List.findSome?_cons, List.filter_cons, ih]
    by_cases hmethod : r.methods.contains method = true
    · rw [if_pos hmethod, if_pos hmethod, List.findSome?_cons]
    · rw [if_neg hmethod, if_neg hmethod]

/-- The routes that remove something. -/
theorem routes_delete : routes.filter (·.methods.contains "DELETE") =
    [sessionRoute "DELETE" [] .endSession,
     ⟨["DELETE"], basePath ++ [.free, .fixed "tables", .free], fun args =>
      .removeTable (args.headD "") (args.getD 1 "")⟩,
     ⟨["DELETE"], basePath ++ [.free, .free, .free], fun args =>
      .removePart (args.headD "") (args.getD 1 "") (args.getD 2 "")⟩] := rfl

theorem fit_fixed {pattern : List Segment} (s : String) :
    fit (.fixed s :: pattern) (s.toList :: segments) = fit pattern segments := by
  rw [fit, if_pos (.inl rfl)]

theorem fit_fixed_ne {pattern : List Segment} {s : String} {cs : List Char} (h : cs ≠ s.toList)
    (hsegments : segments ≠ []) : fit (.fixed s :: pattern) (cs :: segments) = none := by
  rw [fit, if_neg]
  rintro (heq | ⟨hempty, -⟩)
  · exact h heq
  · exact hsegments (List.isEmpty_iff.1 hempty)

theorem fit_basePath (pattern : List Segment) (segments : List (List Char)) :
    fit (basePath ++ pattern) ("api".toList :: "query-builder".toList :: "sessions".toList :: segments) =
      fit pattern segments := by
  rw [basePath, List.cons_append, List.cons_append, List.cons_append, List.nil_append, fit_fixed, fit_fixed, fit_fixed]

theorem fit_free {pattern : List Segment} {cs : List Char} (h : cs ≠ []) :
    fit (.free :: pattern) (cs :: segments) = (fit pattern segments).map (String.ofList cs :: ·) := by
  rw [fit, if_neg (by simpa using h)]

/-- What fits the end of a route for tables. -/
theorem fit_table (kind last : List Char) : fit [.fixed "tables", .free] [kind, last] =
    if kind = "tables".toList ∧ last ≠ [] then some [String.ofList last] else none := by
  by_cases hkind : kind = "tables".toList
  · rw [hkind, fit_fixed]
    cases last with
    | nil => rfl
    | cons c cs => rw [fit_free (List.cons_ne_nil c cs), if_pos ⟨rfl, List.cons_ne_nil c cs⟩, fit, Option.map_some]
  · rw [fit_fixed_ne hkind (List.cons_ne_nil _ _), if_neg fun h => hkind h.1]

/-- What fits the end of a route for items. -/
theorem fit_item (kind last : List Char) : fit [.free, .free] [kind, last] =
    if kind ≠ [] ∧ last ≠ [] then some [String.ofList kind, String.ofList last] else none := by
  cases kind with
  | nil => rfl
  | cons c cs =>
    rw [fit_free (List.cons_ne_nil c cs)]
    cases last with
    | nil => rfl
    | cons d ds =>
      rw [fit_free (List.cons_ne_nil d ds), if_pos ⟨List.cons_ne_nil c cs, List.cons_ne_nil d ds⟩, fit, Option.map_some,
        Option.map_some]

/-- **Where the removal of something of a session leads**: nowhere without a name, to a table, or to an item. -/
theorem endpoint?_delete {kind : List Char} (hsession : session ≠ []) (hsplit : splitAtChar '/' path =
    [] :: "api".toList :: "query-builder".toList :: "sessions".toList :: [session, kind, last]) :
    endpoint? "DELETE" path =
      if kind = [] ∨ last = [] then none
      else if kind = "tables".toList then some (.removeTable (String.ofList session) (String.ofList last))
      else some (.removePart (String.ofList session) (String.ofList kind) (String.ofList last)) := by
  have hfit := fun route => fit?_of_split route hsplit
  have hend : fit (sessionRoute "DELETE" [] Endpoint.endSession).segments
      ("api".toList :: "query-builder".toList :: "sessions".toList :: [session, kind, last]) = none := by
    rw [sessionRoute, fit_basePath, fit_free hsession]
    rfl
  rw [endpoint?_eq_findSome?, routes_delete]
  simp only [List.findSome?_cons, List.findSome?_nil, hfit, hend, fit_basePath, fit_free hsession, fit_table, fit_item]
  by_cases hlast : last = []
  · simp [hlast]
  · by_cases hkind : kind = "tables".toList
    · simp [hlast, hkind]
    · by_cases hempty : kind = []
      · simp [hempty]
      · simp only [hkind, false_and, if_false, Option.map_none, hempty, hlast, ne_eq, not_false_eq_true, and_self,
          if_true, Option.map_some, or_self]
        rfl

/-- **A table of a session** is removed at its name. -/
theorem destination_removeTable (hsession : session ≠ []) (hs : '/' ∉ session) (hlast : last ≠ []) (hl : '/' ∉ last) :
    destination "DELETE" (sessionPath [session, "tables".toList, last]) =
      .endpoint (.removeTable (String.ofList session) (String.ofList last)) := by
  have hsplit := splitAtChar_removal hs (show '/' ∉ "tables".toList by decide) last
  rw [splitAtChar_whole hl] at hsplit
  refine destination_eq_endpoint.2 ((endpoint?_delete hsession hsplit).trans ?_)
  rw [if_neg (by simp [hlast]), if_pos rfl]

/-- **An item of a session** is removed at the name of its kind and its id. -/
theorem destination_removePart {kind : List Char} (hsession : session ≠ []) (hs : '/' ∉ session) (hkind : kind ≠ [])
    (hk : '/' ∉ kind) (htables : kind ≠ "tables".toList) (hlast : last ≠ []) (hl : '/' ∉ last) :
    destination "DELETE" (sessionPath [session, kind, last]) =
      .endpoint (.removePart (String.ofList session) (String.ofList kind) (String.ofList last)) := by
  have hsplit := splitAtChar_removal hs hk last
  rw [splitAtChar_whole hl] at hsplit
  refine destination_eq_endpoint.2 ((endpoint?_delete hsession hsplit).trans ?_)
  rw [if_neg (by simp [hlast, hkind]), if_neg htables]

/-- **A name with a slash in it** leads nowhere. -/
theorem isKnown_slashed (hs : '/' ∉ session) (hl : '/' ∈ last) :
    isKnown (sessionPath [session, "tables".toList, last]) = false := by
  have hsplit := splitAtChar_removal hs (show '/' ∉ "tables".toList by decide) last
  have hparts := two_le_length_splitAtChar hl
  refine isKnown_of_long hsplit ?_
  simp only [List.length_cons]
  omega

/-- The routes with as many segments as those for what belongs to a session. -/
theorem routes_six : routes.filter (·.segments.length == 6) =
    [sessionRoute "GET" [.fixed "catalog", .fixed "joins"] .suggestJoins,
     ⟨["DELETE"], basePath ++ [.free, .fixed "tables", .free], fun args =>
      .removeTable (args.headD "") (args.getD 1 "")⟩,
     sessionRoute "POST" [.fixed "columns", .fixed "toggle"] .toggleColumn,
     ⟨["DELETE"], basePath ++ [.free, .free, .free], fun args =>
      .removePart (args.headD "") (args.getD 1 "") (args.getD 2 "")⟩,
     sessionRoute "GET" [.fixed "executions", .fixed "summary"] .executionSummary] := rfl

/-- **No name** leads nowhere. -/
theorem isKnown_unnamed (hsession : session ≠ []) (hs : '/' ∉ session) :
    isKnown (sessionPath [session, "tables".toList, []]) = false := by
  have hsplit := splitAtChar_removal hs (show '/' ∉ "tables".toList by decide) []
  rw [isKnown, List.any_eq_false]
  intro route hroute hsome
  obtain ⟨args, hfound⟩ := Option.isSome_iff_exists.1 hsome
  have hargs := (fit?_of_split route hsplit).symm.trans hfound
  have hlength : 6 = route.segments.length := length_of_fit hargs
  have hother : ∀ {a b : String}, "tables".toList ≠ a.toList →
      fit (basePath ++ .free :: [.fixed a, .fixed b]) ("api".toList :: "query-builder".toList :: "sessions".toList ::
        [session, "tables".toList, []]) = none := fun h => by
    rw [fit_basePath, fit_free hsession, fit_fixed_ne h (List.cons_ne_nil _ _), Option.map_none]
  have hsix : route ∈ routes.filter (·.segments.length == 6) :=
    List.mem_filter.2 ⟨hroute, by rw [← hlength]; rfl⟩
  rw [routes_six] at hsix
  simp only [List.mem_cons, List.not_mem_nil, or_false] at hsix
  have hnone : fit route.segments ("api".toList :: "query-builder".toList :: "sessions".toList ::
      [session, "tables".toList, []]) = none := by
    rcases hsix with rfl | rfl | rfl | rfl | rfl
    · exact hother (by decide)
    · rw [fit_basePath, fit_free hsession, fit_table, if_neg (by simp), Option.map_none]
    · exact hother (by decide)
    · rw [fit_basePath, fit_free hsession, fit_item, if_neg (by simp), Option.map_none]
    · exact hother (by decide)
  exact Option.some_ne_none args (hargs.symm.trans hnone)

end Removal

end QueryCanvas.Http
