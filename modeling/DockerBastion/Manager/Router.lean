import DockerBastion.Foundation.Bytes

/-!
# The martini router

A pattern is a literal text with parameters `:name`, each standing for a
nonempty text without `/`, `#` and `?`; a route matches a path when the pattern,
with an optional slash behind it, covers the whole path.  Of the routes that
match, the one with the best method match wins, the first one among equals.
-/

namespace DockerBastion.Manager

open Foundation

inductive Piece where
  | lit (b : UInt8)
  | param (name : Bytes)
  deriving DecidableEq, Repr

def slash : UInt8 := 47

def isNameChar (b : UInt8) : Bool := b ∉ ascii "/#?().\\"

def isParamChar (b : UInt8) : Bool := b ∉ ascii "/#?"

/-- A colon without a name behind it is a literal. -/
def closeName (name : Bytes) : Piece := if name = [] then .lit 58 else .param name

/-- The pieces of a pattern, `name` being the parameter name under construction. -/
def compileFrom : Option Bytes → Bytes → List Piece
  | none, [] => []
  | some name, [] => [closeName name]
  | none, b :: pattern =>
      if b = 58 then compileFrom (some []) pattern
      else .lit b :: compileFrom none pattern
  | some name, b :: pattern =>
      if isNameChar b then compileFrom (some (name ++ [b])) pattern
      else closeName name :: .lit b :: compileFrom none pattern

def compile (pattern : Bytes) : List Piece := compileFrom none pattern

abbrev Params := List (Bytes × Bytes)

def matchPieces : List Piece → Bytes → Option Params
  | [], path => if path = [] ∨ path = [slash] then some [] else none
  | .lit b :: pieces, path =>
      match path with
      | [] => none
      | c :: path => if b = c then matchPieces pieces path else none
  | .param name :: pieces, path =>
      let value := path.takeWhile isParamChar
      if value = [] then none
      else
        (matchPieces pieces (path.dropWhile isParamChar)).map
          fun params => (name, value) :: params

inductive RouteMatch where
  | noMatch
  | starMatch
  | overloadMatch
  | exactMatch
  deriving DecidableEq, Repr

def RouteMatch.rank : RouteMatch → Nat
  | .noMatch => 0
  | .starMatch => 1
  | .overloadMatch => 2
  | .exactMatch => 3

def RouteMatch.betterThan (r o : RouteMatch) : Bool := o.rank < r.rank

structure Route (η : Type*) where
  method : Bytes
  pattern : Bytes
  handler : η

section Routing

variable {η : Type*}

def Route.matchMethod (r : Route η) (method : Bytes) : RouteMatch :=
  if method = r.method then .exactMatch
  else if method = ascii "HEAD" ∧ r.method = ascii "GET" then .overloadMatch
  else if r.method = ascii "*" then .starMatch
  else .noMatch

def Route.matchPath (r : Route η) (path : Bytes) : Option Params :=
  matchPieces (compile r.pattern) path

def Route.matchRoute (r : Route η) (method path : Bytes) : RouteMatch × Params :=
  match r.matchMethod method, r.matchPath path with
  | .noMatch, _ => (.noMatch, [])
  | m, some params => (m, params)
  | _, none => (.noMatch, [])

/-- The loop of `Handle`, `best` being the best match so far. -/
def bestRoute (method path : Bytes) :
    List (Route η) → RouteMatch × Option (η × Params) →
      RouteMatch × Option (η × Params)
  | [], best => best
  | r :: routes, best =>
      let (m, params) := r.matchRoute method path
      if m.betterThan best.1 then
        if m = .exactMatch then (m, some (r.handler, params))
        else bestRoute method path routes (m, some (r.handler, params))
      else bestRoute method path routes best

/-- The handler a request is dispatched to, `none` being the not-found handlers. -/
def dispatch (routes : List (Route η)) (method path : Bytes) : Option (η × Params) :=
  (bestRoute method path routes (.noMatch, none)).2

theorem method_of_matchMethod {r : Route η} {method : Bytes}
    (h : r.matchMethod method ≠ .noMatch) :
    method = r.method ∨ (method = ascii "HEAD" ∧ r.method = ascii "GET") ∨
      r.method = ascii "*" := by
  unfold Route.matchMethod at h
  split at h
  · exact .inl ‹_›
  · split at h
    · exact .inr (.inl ‹_›)
    · split at h
      · exact .inr (.inr ‹_›)
      · exact absurd rfl h

theorem matchRoute_betterThan {r : Route η} {method path : Bytes} {best : RouteMatch}
    (h : (r.matchRoute method path).1.betterThan best = true) :
    r.matchMethod method ≠ .noMatch ∧
      r.matchPath path = some (r.matchRoute method path).2 := by
  unfold Route.matchRoute at h ⊢
  cases hm : r.matchMethod method <;> cases hp : r.matchPath path <;>
    simp_all [RouteMatch.betterThan, RouteMatch.rank]

private theorem bestRoute_spec {method path : Bytes} {routes : List (Route η)}
    {best : RouteMatch × Option (η × Params)} {h : η} {params : Params}
    (hres : (bestRoute method path routes best).2 = some (h, params)) :
    best.2 = some (h, params) ∨
      ∃ r ∈ routes, r.handler = h ∧ r.matchMethod method ≠ .noMatch ∧
        r.matchPath path = some params := by
  induction routes generalizing best with
  | nil => exact .inl hres
  | cons r routes ih =>
      simp only [bestRoute] at hres
      split at hres
      · rename_i hbetter
        obtain ⟨hmethod, hpath⟩ := matchRoute_betterThan hbetter
        split at hres
        · simp only [Option.some.injEq, Prod.mk.injEq] at hres
          obtain ⟨rfl, rfl⟩ := hres
          exact .inr ⟨r, List.mem_cons_self, rfl, hmethod, hpath⟩
        · rcases ih hres with hbest | ⟨q, hq, hrest⟩
          · simp only [Option.some.injEq, Prod.mk.injEq] at hbest
            obtain ⟨rfl, rfl⟩ := hbest
            exact .inr ⟨r, List.mem_cons_self, rfl, hmethod, hpath⟩
          · exact .inr ⟨q, List.mem_cons_of_mem r hq, hrest⟩
      · rcases ih hres with hbest | ⟨q, hq, hrest⟩
        · exact .inl hbest
        · exact .inr ⟨q, List.mem_cons_of_mem r hq, hrest⟩

theorem exists_route_of_dispatch {routes : List (Route η)} {method path : Bytes} {h : η}
    {params : Params} (hres : dispatch routes method path = some (h, params)) :
    ∃ r ∈ routes, r.handler = h ∧ r.matchMethod method ≠ .noMatch ∧
      r.matchPath path = some params := by
  rcases bestRoute_spec hres with hbest | hroute
  · cases hbest
  · exact hroute

theorem matchPieces_lit {text path : Bytes} {params : Params}
    (h : matchPieces (text.map .lit) path = some params) :
    path = text ∨ path = text ++ [slash] := by
  induction text generalizing path with
  | nil =>
      simp only [List.map_nil, matchPieces] at h
      split at h
      · rename_i hpath
        simpa using hpath
      · cases h
  | cons b text ih =>
      cases path with
      | nil => simp [matchPieces] at h
      | cons c path =>
          simp only [List.map_cons, matchPieces] at h
          split at h
          · rename_i hbc
            subst hbc
            rcases ih h with rfl | rfl <;> simp
          · cases h

theorem text_prefix_of_matchPieces {text path : Bytes} {pieces : List Piece} {params : Params}
    (h : matchPieces (text.map .lit ++ pieces) path = some params) : text <+: path := by
  induction text generalizing path with
  | nil => exact List.nil_prefix
  | cons b text ih =>
      cases path with
      | nil => simp [matchPieces] at h
      | cons c path =>
          simp only [List.map_cons, List.cons_append, matchPieces] at h
          split at h
          · rename_i hbc
            subst hbc
            exact List.cons_prefix_cons.mpr ⟨rfl, ih h⟩
          · cases h

end Routing

end DockerBastion.Manager
