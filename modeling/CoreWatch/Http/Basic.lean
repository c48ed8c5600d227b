import CoreWatch.Json.Basic

set_option autoImplicit false

namespace CoreWatch.Http

inductive Body
  | text (content : String)
  | json (content : Json)

namespace Body

def toText : Body → String
  | text content => content
  | json content => content.render

end Body

structure Response where
  status : Nat
  contentType : Option String
  body : Body

namespace Response

def bare (status : Nat) : Response :=
  ⟨status, none, .text ""⟩

def ofJson (status : Nat) (content : Json) : Response :=
  ⟨status, some "application/json", .json content⟩

def plain (status : Nat) (content : String) : Response :=
  ⟨status, some "text/plain; charset=utf-8", .text content⟩

def withoutBody (response : Response) : Response :=
  { response with body := .text "" }

end Response

structure Request where
  method : String
  /-- The path without a query. -/
  path : String

namespace Request

def ofTarget (method target : String) : Request :=
  ⟨method, String.ofList (target.toList.takeWhile fun c => c != '?' && c != '#')⟩

def get (target : String) : Request :=
  ofTarget "GET" target

end Request

def isSuccess (status : Nat) : Bool :=
  200 ≤ status && status < 300

/--
The answer to a request whose path has the given page, if any. Pages can only be read; a page that
is `some none` cannot be made, and then the request stays without an answer.
-/
def respond (request : Request) (page : Option (Option Response)) : Option Response :=
  match page with
  | none => some (.bare 404)
  | some response =>
    if request.method == "GET" then response
    else if request.method == "HEAD" then response.map Response.withoutBody
    else some (.bare 405)

end CoreWatch.Http
