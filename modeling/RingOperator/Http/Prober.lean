import RingOperator.Http.Basic
import RingOperator.Json.Reader
import RingOperator.Json.Record
import RingOperator.Regions
import RingOperator.Text.Blank

/-!
# Probers over HTTP

The exchange between regions as requests to the probers: the own prober is
told by `PUT` under its own address, and another region's prober is asked by
`GET` under its host. Every response but `200 OK` is a failure.
-/

namespace RingOperator.Http

/-- The own prober, and the credentials for all of them. -/
structure Prober where
  /-- The address of the own prober. -/
  base : String
  user : String
  password : String

namespace Prober

/-- The address without slashes at its end. -/
def trimmed (url : String) : String :=
  String.ofList (url.toList.reverse.dropWhile (· = '/')).reverse

/-- The prober under an address. -/
def of (url user password : String) : Prober := ⟨trimmed url, user, password⟩

/-- The host that a failure of a request names. -/
def host (prober : Prober) : Regions.Ask → String
  | .publishSeeds _ | .publishReady _ => prober.base
  | .seedsOf region | .readyOf region => region

/-- The word of a truth value. -/
def word (value : Bool) : String := if value then "true" else "false"

/-- The request that asks or tells. -/
def request (prober : Prober) : Regions.Ask → Request
  | .publishSeeds seeds => {
      method := "PUT", url := prober.base ++ "/seeds"
      credentials := some (prober.user, prober.password)
      body := .json (.array (seeds.map .text)) }
  | .publishReady ready => {
      method := "PUT", url := prober.base ++ "/region-ready"
      credentials := some (prober.user, prober.password)
      body := .text (word ready) }
  | .seedsOf region => {
      method := "GET", url := "https://" ++ region ++ "/seeds"
      credentials := some (prober.user, prober.password) }
  | .readyOf region => {
      method := "GET", url := "https://" ++ region ++ "/region-ready"
      credentials := some (prober.user, prober.password) }

/-- The text of a response that is `200 OK`. -/
def content (host : String) : Reply → Outcome String
  | .error detail => .error (.gateway host detail)
  | .ok response =>
    if response.status = 200 then .ok response.content
    else .error (.gateway host
      ("response status " ++ statusText response.status ++ " is not 200 OK"))

/-- The truth value that a text says, blanks around it left out. -/
def readBool (host text : String) : Outcome Bool :=
  let said := String.ofList (Text.trim text.toList)
  if said = "true" then .ok true
  else if said = "false" then .ok false
  else .error (.gateway host
    ("unexpected response " ++ Text.Quoted.quote said ++ ", expect true or false"))

/-- The texts that a JSON text lists. -/
def readTexts (host text : String) : Outcome (List String) :=
  match (Json.read text).bind (Json.list? Json.text?) with
  | some texts => .ok texts
  | none => .error (.gateway host
      ("error unmarshalling response body: " ++ unreadableDetail))

/-- What a reply says. -/
def understand (prober : Prober) : (ask : Regions.Ask) → Reply → Regions.Reply ask
  | .publishSeeds seeds, reply => do
    let _ ← content (prober.host (.publishSeeds seeds)) reply
  | .publishReady ready, reply => do
    let _ ← content (prober.host (.publishReady ready)) reply
  | .seedsOf region, reply => do readTexts region (← content region reply)
  | .readyOf region, reply => do readBool region (← content region reply)

end Prober

end RingOperator.Http
