import Gamebook.Json.Reader
import Gamebook.Json.Writer
import Gamebook.Web.Percent

namespace Gamebook
namespace Http

structure Request where
  method : String
  path   : String
  body   : String
deriving DecidableEq, Repr

namespace Request

-- The path without what may follow it, and with its escapes resolved.
def place (r : Request) : String :=
  Percent.decode (String.ofList (r.path.toList.takeWhile fun c => c ≠ '?' && c ≠ '#'))

end Request

inductive Content
  | json (j : Json)
  | text (s : String)

structure Reply where
  status  : Nat
  content : Content

namespace Reply

def detail (status : Nat) (d : Json) : Reply :=
  ⟨status, .json (.obj [("detail", d)])⟩

def notFound : Reply :=
  detail 404 (.str "Not Found")

def wrongMethod : Reply :=
  detail 405 (.str "Method Not Allowed")

def redirect : Reply :=
  ⟨307, .text ""⟩

def unreadable : Reply :=
  detail 400 (.str "There was an error parsing the body")

def failure : Reply :=
  ⟨500, .text "Internal Server Error"⟩

end Reply
end Http
end Gamebook
