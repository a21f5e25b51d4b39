import QueryDesk.Text.Glyph

/-!
# Routes

What the paths of the web front end stand for, and the method by which each is asked for.  Several
routes may fit one path; the first that is asked for by the method in use is taken.
-/

set_option autoImplicit false

namespace QueryDesk

/-- What a request may ask for. -/
inductive Route
  | health
  | metrics
  | templates
  | recent
  | history
  | query (id : Text)
  | submission
  | collection (name : Text)
  deriving DecidableEq, Repr

namespace Route

/-- The method by which a route is asked for. -/
def method : Route → Text
  | submission => Text.of "POST"
  | _ => Text.of "GET"

/-- The routes whose paths hold nothing that varies. -/
def fixed : List (String × Route) :=
  [("/api/health", health), ("/api/dashboard/metrics", metrics),
    ("/api/query-templates", templates), ("/api/queries/recent", recent),
    ("/api/queries/history", history), ("/api/queries", submission)]

/-- Tests for a path that holds nothing that varies; one line break behind it is overlooked. -/
def isFixed (path : Text) (place : String) : Bool :=
  path == Text.of place || path == Text.of place ++ Text.of "\n"

/-- What follows a front of a path, if it is not empty and has no further parts. -/
def last? (front : String) (path : Text) : Option Text :=
  if (Text.of front).isPrefixOf path then
    let name := path.drop front.length
    if name.isEmpty || name.contains (.char '/') then none else some name
  else none

/-- The routes that fit a path, in the order in which they are tried. -/
def all (path : Text) : List Route :=
  (fixed.filter fun r => isFixed path r.1).map (·.2)
    ++ ((last? "/api/queries/" path).map query).toList
    ++ ((last? "/api/ebs/" path).map collection).toList

/-- The path without the slashes at its end. -/
def withoutSlashes (path : Text) : Text := path.dropEndWhile (· == .char '/')

/-- The path to go to instead: that without the slashes at its end, if they alone keep the path from
fitting a route. -/
def elsewhere? (path : Text) : Option Text :=
  if path.getLast? = some (.char '/') && (all path).isEmpty
      && !(all (withoutSlashes path)).isEmpty then some (withoutSlashes path)
  else none

end Route
end QueryDesk
