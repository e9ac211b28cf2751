import Gamebook.Notice.Basic
import Gamebook.Web.Base64
import Gamebook.Web.Url

namespace Gamebook

-- What becomes of what is posted.
inductive Delivery
  | status (code : Int)
  | unreachable
  | timeout
  | failed (reason : String)
deriving DecidableEq, Repr

-- Where notices are posted to, the key that is shown there, and how many seconds may pass.
structure Webhook where
  url     : String
  key     : Json
  timeout : Json

namespace Webhook

def defaultTimeout : Json := .float (.ofInt 10)

def bearer (w : Webhook) : Option String :=
  if w.key.isNothing then none else some ("Bearer " ++ w.key.inline)

def isAscii (s : String) : Bool :=
  s.toList.all (·.toNat < 128)

-- A user named in the address.
def basic? (u : Url) : Option String :=
  let (name, password) := Url.cut ':' u.userinfo.toList
  let plain (cs : List Char) : String := Percent.decode (String.ofList cs)
  let userpass := plain name ++ ":" ++ plain (password.getD [])
  if userpass = ":" then none
  else some ("Basic " ++ String.ofList (Base64.encode userpass.toUTF8.toList))

-- Why an address is not one that can be posted to.
def unreached? (u : Url) : Option String :=
  if u.isRelative then some "Request URL is missing an 'http://' or 'https://' protocol."
  else if ["http", "https", "ws", "wss"].contains u.scheme then none
  else some ("Request URL has an unsupported protocol '" ++ u.scheme ++ "://'.")

def settle (w : Webhook) : Delivery → Except Notice.Fault Unit
  | .status n    => if 200 ≤ n ∧ n < 300 then .ok () else .error (.status n)
  | .unreachable => .error (.unreachable w.url)
  | .timeout     => .error (.timeout w.timeout.inline)
  | .failed r    => .error (.failed w.url r)

-- The notice that is posted, unless something keeps it from being sent. A user in the address
-- goes before the key.
def prepare (w : Webhook) (summary : List (String × Json)) : Except Notice.Fault Notice :=
  match Url.parse w.url with
  | .error p => .error (.failed w.url p.message)
  | .ok u    =>
    if !(w.bearer.all isAscii) then .error .notAscii
    else if ¬(Json.obj summary).IsPortable then .error .notPortable
    else match unreached? u with
      | some reason => .error (.failed w.url reason)
      | none        => .ok (.post u.text ((basic? u).or w.bearer) (.obj summary))

-- Posts a summary. A notice that has been sent need not have arrived.
def send (w : Webhook) (d : Delivery) (summary : List (String × Json)) :
    Option Notice × Except Notice.Fault Unit :=
  match w.prepare summary with
  | .ok n    => (some n, w.settle d)
  | .error e => (none, .error e)

end Webhook
end Gamebook
