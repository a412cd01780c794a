import DockerBastion.Manager.Response
import DockerBastion.Manager.Router
import DockerBastion.Store

/-!
# The authentication middleware and the routes it guards

`authMidware` runs before the router and decides by its own table, keyed by the
method, whether a request needs a session.  The main result states exactly for
which requests that table and the routes agree.
-/

namespace DockerBastion.Manager

open Foundation

def apiPrefix : Bytes := ascii "/api"

def authWhiteList : List (Bytes × List Bytes) :=
  [(ascii "GET", [ascii "/_ping"]),
   (ascii "POST", [ascii "/login"]),
   (ascii "DELETE", [])]

def authRequired (method path : Bytes) : Bool :=
  match authWhiteList.lookup method with
  | none => false
  | some list => list.all fun openPath => path ≠ apiPrefix ++ openPath

def sessionAdmin (session : Session) (fault : Bool) (db : Store) : Bool :=
  match session with
  | some (.int uid) => !fault && db.hasAdmin uid
  | _ => false

/-- The status that the middleware writes, `none` if it lets the request pass. -/
def authMidware (method path : Bytes) (session : Session) (fault : Bool) (db : Store) :
    Option Nat :=
  if ¬ apiPrefix.isPrefixOf path then none
  else if ¬ authRequired method path then none
  else if sessionAdmin session fault db then none
  else some 403

inductive Handler where
  | ping
  | login
  | logout
  | chPasswd
  | addUser
  | users
  | deleteUser
  | grant
  | revoke
  | createContainer
  | deleteContainer
  | containers
  deriving DecidableEq, Repr

def apiRoute (method pattern : String) (handler : Handler) : Route Handler :=
  ⟨ascii method, apiPrefix ++ ascii pattern, handler⟩

def routes : List (Route Handler) :=
  [apiRoute "GET" "/_ping" .ping,
   apiRoute "POST" "/login" .login,
   apiRoute "DELETE" "/logout" .logout,
   apiRoute "POST" "/passwd" .chPasswd,
   apiRoute "POST" "/users" .addUser,
   apiRoute "GET" "/users" .users,
   apiRoute "DELETE" "/users/:id" .deleteUser,
   apiRoute "POST" "/priv" .grant,
   apiRoute "DELETE" "/priv/:id" .revoke,
   apiRoute "POST" "/containers" .createContainer,
   apiRoute "DELETE" "/containers/:id" .deleteContainer,
   apiRoute "GET" "/containers" .containers]

/-- The handler that runs: the chain stops once the middleware has written. -/
def serve (method path : Bytes) (session : Session) (fault : Bool) (db : Store) :
    Option (Handler × Params) :=
  match authMidware method path session fault db with
  | some _ => none
  | none => dispatch routes method path

def Handler.isOpen : Handler → Bool
  | .ping | .login => true
  | _ => false

/--
For this request the middleware and the router agree: a guarded handler runs only
for a session of an administrator that the query found, and an open handler runs
without a session.
-/
def Agree (method path : Bytes) (session : Session) (fault : Bool) (db : Store) : Prop :=
  (∀ h params, dispatch routes method path = some (h, params) → h.isOpen = false →
    serve method path session fault db = some (h, params) →
      fault = false ∧
        ∃ uid, session = some (.int uid) ∧ ∃ r ∈ db.admins, (r.id : Int) = uid) ∧
  (∀ h params, dispatch routes method path = some (h, params) → h.isOpen = true →
    serve method path none fault db = some (h, params))

def headPaths : List Bytes :=
  [ascii "/api/users", ascii "/api/users/",
   ascii "/api/containers", ascii "/api/containers/"]

def slashedRequests : List (Bytes × Bytes) :=
  [(ascii "POST", ascii "/api/login/"), (ascii "GET", ascii "/api/_ping/")]

theorem sessionAdmin_iff {session : Session} {fault : Bool} {db : Store} :
    sessionAdmin session fault db = true ↔
      fault = false ∧
        ∃ uid, session = some (.int uid) ∧ ∃ r ∈ db.admins, (r.id : Int) = uid := by
  unfold sessionAdmin
  split
  · rename_i uid
    rw [Bool.and_eq_true, Bool.not_eq_true', Store.hasAdmin_iff]
    constructor
    · rintro ⟨hfault, hadmin⟩
      exact ⟨hfault, uid, rfl, hadmin⟩
    · rintro ⟨hfault, _, heq, hadmin⟩
      cases heq
      exact ⟨hfault, hadmin⟩
  · rename_i hnot
    simp only [Bool.false_eq_true, false_iff, not_and, not_exists]
    rintro - uid rfl
    exact absurd rfl (hnot uid)

/-! ## What the routes match -/

private theorem method_of_route :
    ∀ r ∈ routes, r.method = ascii "GET" ∨ r.method = ascii "POST" ∨
      r.method = ascii "DELETE" := by
  decide

private theorem compile_of_route :
    ∀ r ∈ routes, r.method ≠ ascii "DELETE" →
      compile r.pattern = r.pattern.map .lit := by
  decide

private theorem head_route :
    ∀ r ∈ routes, r.method = ascii "GET" → r.handler.isOpen = false →
      r.pattern ∈ headPaths ∧ r.pattern ++ [slash] ∈ headPaths := by
  decide

private theorem open_route :
    ∀ r ∈ routes, r.handler.isOpen = true →
      (r.method = ascii "GET" ∧ r.pattern = ascii "/api/_ping") ∨
        (r.method = ascii "POST" ∧ r.pattern = ascii "/api/login") := by
  decide

private theorem apiPrefix_of_route :
    ∀ r ∈ routes, (compile r.pattern).take apiPrefix.length = apiPrefix.map .lit := by
  decide

theorem route_of_dispatch {method path : Bytes} {h : Handler} {params : Params}
    (hd : dispatch routes method path = some (h, params)) :
    ∃ r ∈ routes, r.handler = h ∧ apiPrefix.isPrefixOf path = true ∧
      (method = r.method ∨ (method = ascii "HEAD" ∧ r.method = ascii "GET")) ∧
      (r.method ≠ ascii "DELETE" → path = r.pattern ∨ path = r.pattern ++ [slash]) := by
  obtain ⟨r, hr, hh, hmethod, hpath⟩ := exists_route_of_dispatch hd
  refine ⟨r, hr, hh, ?_, ?_, ?_⟩
  · rw [List.isPrefixOf_iff_prefix]
    unfold Route.matchPath at hpath
    rw [← List.take_append_drop apiPrefix.length (compile r.pattern),
      apiPrefix_of_route r hr] at hpath
    exact text_prefix_of_matchPieces hpath
  · rcases method_of_matchMethod hmethod with heq | hhead | hstar
    · exact .inl heq
    · exact .inr hhead
    · have hne : ∀ r ∈ routes, r.method ≠ ascii "*" := by decide
      exact absurd hstar (hne r hr)
  · intro hdelete
    unfold Route.matchPath at hpath
    rw [compile_of_route r hr hdelete] at hpath
    exact matchPieces_lit hpath

/-! ## The middleware -/

private theorem authRequired_get (path : Bytes) :
    authRequired (ascii "GET") path = (decide (path ≠ ascii "/api/_ping") && true) :=
  rfl

private theorem authRequired_post (path : Bytes) :
    authRequired (ascii "POST") path = (decide (path ≠ ascii "/api/login") && true) :=
  rfl

private theorem authRequired_delete (path : Bytes) :
    authRequired (ascii "DELETE") path = true :=
  rfl

private theorem serve_of_not_required {method path : Bytes} {session : Session}
    {fault : Bool} {db : Store} (h : authRequired method path = false) :
    serve method path session fault db = dispatch routes method path := by
  simp [serve, authMidware, h]

private theorem serve_without_session {method path : Bytes} {fault : Bool} {db : Store}
    (hbegins : apiPrefix.isPrefixOf path = true) (h : authRequired method path = true) :
    serve method path none fault db = none := by
  simp [serve, authMidware, h, hbegins, sessionAdmin]

theorem session_of_serve {method path : Bytes} {session : Session} {fault : Bool}
    {db : Store} {h : Handler} {params : Params}
    (hbegins : apiPrefix.isPrefixOf path = true)
    (hserve : serve method path session fault db = some (h, params)) :
    sessionAdmin session fault db = true ∨ authRequired method path = false := by
  by_contra hnot
  obtain ⟨hsession, hrequired⟩ := not_or.mp hnot
  simp [serve, authMidware, hbegins, hsession, hrequired] at hserve

private theorem head_of_not_required {method path : Bytes} {h : Handler}
    {params : Params} (hd : dispatch routes method path = some (h, params))
    (hopen : h.isOpen = false) (hrequired : authRequired method path = false) :
    method = ascii "HEAD" ∧ path ∈ headPaths := by
  obtain ⟨r, hr, rfl, -, hmethod, hpath⟩ := route_of_dispatch hd
  rcases hmethod with rfl | ⟨hhead, hget⟩
  · -- the three methods of the table leave only the paths listed in it open
    exfalso
    rcases method_of_route r hr with hm | hm | hm <;> rw [hm] at hrequired hd
    · have hping : path = ascii "/api/_ping" := by
        simpa [authRequired_get] using hrequired
      subst hping
      rw [show dispatch routes (ascii "GET") (ascii "/api/_ping") =
        some (.ping, []) by decide] at hd
      simp only [Option.some.injEq, Prod.mk.injEq] at hd
      rw [← hd.1] at hopen
      cases hopen
    · have hlogin : path = ascii "/api/login" := by
        simpa [authRequired_post] using hrequired
      subst hlogin
      rw [show dispatch routes (ascii "POST") (ascii "/api/login") =
        some (.login, []) by decide] at hd
      simp only [Option.some.injEq, Prod.mk.injEq] at hd
      rw [← hd.1] at hopen
      cases hopen
    · rw [authRequired_delete] at hrequired
      cases hrequired
  · obtain ⟨hplain, hslash⟩ := head_route r hr hget hopen
    have hne : r.method ≠ ascii "DELETE" := by
      rw [hget]
      decide
    rcases hpath hne with rfl | rfl
    · exact ⟨hhead, hplain⟩
    · exact ⟨hhead, hslash⟩

private theorem not_required_of_open {method path : Bytes} {h : Handler}
    {params : Params} (hd : dispatch routes method path = some (h, params))
    (hopen : h.isOpen = true) (hslashed : (method, path) ∉ slashedRequests) :
    authRequired method path = false := by
  obtain ⟨r, hr, rfl, -, hmethod, hpath⟩ := route_of_dispatch hd
  rcases open_route r hr hopen with ⟨hm, hp⟩ | ⟨hm, hp⟩ <;> rw [hm, hp] at hpath <;>
    rw [hm] at hmethod
  · rcases hmethod with rfl | ⟨rfl, -⟩
    · rcases hpath (by decide) with rfl | rfl
      · decide
      · exact absurd (by decide) hslashed
    · rfl
  · rcases hmethod with rfl | ⟨-, hget⟩
    · rcases hpath (by decide) with rfl | rfl
      · decide
      · exact absurd (by decide) hslashed
    · exact absurd hget (by decide)

/-! ## Where the two tables agree -/

/--
The middleware and the router agree on a request exactly if it is not a request
for an open handler with a slash behind the path, and, where it is a HEAD request
for the list of users or containers, the session is one of an administrator.
-/
theorem agree_iff (method path : Bytes) (session : Session) (fault : Bool) (db : Store) :
    Agree method path session fault db ↔
      (method, path) ∉ slashedRequests ∧
        (method = ascii "HEAD" → path ∈ headPaths →
          sessionAdmin session fault db = true) := by
  constructor
  · rintro ⟨hguarded, hopen⟩
    constructor
    · intro hslashed
      simp only [slashedRequests, List.mem_cons, List.not_mem_nil, or_false,
        Prod.mk.injEq] at hslashed
      rcases hslashed with ⟨rfl, rfl⟩ | ⟨rfl, rfl⟩
      · have hrun := hopen .login [] (by decide) rfl
        rw [serve_without_session (by decide) (by decide)] at hrun
        cases hrun
      · have hrun := hopen .ping [] (by decide) rfl
        rw [serve_without_session (by decide) (by decide)] at hrun
        cases hrun
    · rintro rfl hpath
      rw [sessionAdmin_iff]
      have hhead : ∀ p ∈ headPaths, ∃ h, h.isOpen = false ∧
          dispatch routes (ascii "HEAD") p = some (h, []) := by
        intro p hp
        simp only [headPaths, List.mem_cons, List.not_mem_nil, or_false] at hp
        rcases hp with rfl | rfl | rfl | rfl
        · exact ⟨.users, rfl, by decide⟩
        · exact ⟨.users, rfl, by decide⟩
        · exact ⟨.containers, rfl, by decide⟩
        · exact ⟨.containers, rfl, by decide⟩
      obtain ⟨h, hopen, hd⟩ := hhead path hpath
      refine hguarded h [] hd hopen ?_
      rw [serve_of_not_required rfl, hd]
  · rintro ⟨hslashed, hhead⟩
    constructor
    · intro h params hd hopen hserve
      rw [← sessionAdmin_iff]
      obtain ⟨-, -, -, hbegins, -, -⟩ := route_of_dispatch hd
      rcases session_of_serve hbegins hserve with hsession | hrequired
      · exact hsession
      · obtain ⟨hm, hp⟩ := head_of_not_required hd hopen hrequired
        exact hhead hm hp
    · intro h params hd hopen
      rw [serve_of_not_required (not_required_of_open hd hopen hslashed), hd]

theorem head_users_disagree :
    ¬ Agree (ascii "HEAD") (ascii "/api/users") none false .empty := by
  rintro ⟨hguarded, -⟩
  obtain ⟨-, uid, hsession, -⟩ := hguarded .users [] (by decide) rfl (by decide)
  cases hsession

end DockerBastion.Manager
