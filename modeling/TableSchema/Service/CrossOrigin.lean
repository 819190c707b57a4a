import TableSchema.Service.Request

/-! # Requests of other origins

A page of another origin may use the service if its origin is listed. A request of such a page gets
the headers that let the page see the answer. Before some requests the browser asks whether the
request is allowed; that question is a `Preflight`.
-/

namespace TableSchema.Service

/-- The methods that pages of other origins may use. -/
def sharedMethods : List String :=
  ["DELETE", "GET", "HEAD", "OPTIONS", "PATCH", "POST", "PUT", "QUERY"]

/-- The header that lets a page send the credentials of its user. -/
def credentialsHeader : String × String :=
  ("access-control-allow-credentials", "true")

/-- The header that lets the pages of an origin see an answer, if the origin is listed. -/
def originHeaders (origins : List String) (origin : String) : List (String × String) :=
  if origins.contains origin then [("access-control-allow-origin", origin)] else []

/-- The headers of the answer to a plain request: none unless an origin asks. -/
def sharingHeaders (origins : List String) (request : Request) : List (String × String) :=
  match request.header? "origin" with
  | some origin => credentialsHeader :: originHeaders origins origin
  | none => []

/-- The question whether a request is allowed. -/
structure Preflight where
  origin : String
  method : String
  /-- The headers that the request would have. -/
  headers : Option String
  /-- Whether the page is public and the service is reached in a private network. -/
  intoPrivateNetwork : Bool
deriving DecidableEq

/-- The question that a request asks, if it asks one. -/
def Request.preflight? (request : Request) : Option Preflight :=
  if request.method = "OPTIONS" then do
    let origin ← request.header? "origin"
    let method ← request.header? "access-control-request-method"
    return {
      origin, method
      headers := request.header? "access-control-request-headers"
      intoPrivateNetwork := (request.header? "access-control-request-private-network").isSome }
  else none

/-- Whether the request is allowed. None is that would enter a private network. -/
def Preflight.isAllowed (preflight : Preflight) (origins : List String) : Bool :=
  origins.contains preflight.origin && sharedMethods.contains preflight.method &&
    !preflight.intoPrivateNetwork

/-- The headers of the answer. All headers are allowed that the request would have. -/
def Preflight.sharingHeaders (preflight : Preflight) (origins : List String) :
    List (String × String) :=
  [credentialsHeader] ++
    preflight.headers.toList.map (("access-control-allow-headers", ·)) ++
    [("access-control-allow-methods", ", ".intercalate sharedMethods)] ++
    originHeaders origins preflight.origin ++
    [("access-control-max-age", "600")]

end TableSchema.Service
