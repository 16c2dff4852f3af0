import AppletPage.Service.Request

/-! The addresses that the service knows. -/

namespace AppletPage

open Text

inductive Route where
  | start
  | page
  | health
  | parameters
  | plugins
  | info
  | preferences (user : String)
deriving DecidableEq

namespace Route

/-- The routes of the service itself. Those of its framework, which show what routes there are, are
left out: `/docs`, `/docs/oauth2-redirect`, `/redoc` and `/openapi.json`. -/
def fixed : List (String × Route) :=
  [("/v1/parameters", .parameters), ("/v1/plugins", .plugins), ("/v1/system/info", .info),
   ("/applet", .page), ("/", .start), ("/healthz", .health)]

def preferencesPrefix : List Char := "/v1/prefs/".toList

def userOf? (path : List Char) : Option String :=
  if preferencesPrefix.isPrefixOf path then
    let user := path.drop preferencesPrefix.length
    if user.isEmpty || user.contains '/' then none else some (String.ofList user)
  else
    none

/-- The route of a path; a line end may follow the paths of fixed routes. -/
def ofPath? (path : String) : Option Route :=
  match userOf? path.toList with
  | some user => some (.preferences user)
  | none => fixed.lookup (String.ofList (withoutLineEnd path.toList))

def methods : Route → List String
  | preferences _ => ["GET", "PUT"]
  | _ => ["GET"]

/-- The path with the slashes at its end taken away, or with one put there if it has none. -/
def otherSlash (path : String) : String :=
  match path.toList.reverse with
  | '/' :: rest => String.ofList (rest.dropWhile (· = '/')).reverse
  | _ => path ++ "/"

/-- Where a path leads that has no route while the other form of it has one. -/
def redirection? (request : Request) : Option String :=
  if request.path = "/" then none
  else
    let path := otherSlash request.path
    (ofPath? path).map fun _ =>
      let query :=
        match request.query with
        | some query => if query = "" then "" else "?" ++ query
        | none => ""
      Percent.encode (Request.origin ++ String.ofList (Request.addressPath path) ++ query)

end Route

end AppletPage
