import RingOperator.Api.Call

/-!
# Sending calls

A call is sent as a path with a query. Names are put into the path as they are,
so a character that no path may hold makes the call impossible to send, a
question mark in a name starts the query early, and a hash sign ends path and
query. Quotes and braces arrive escaped, a backslash as a slash. `Call.sent?` is
the call that arrives.
-/

namespace RingOperator.Api

/-- Whether a character may stand in a path. -/
def isPathChar (c : Char) : Bool :=
  c = '!' || ('$' ≤ c && c ≤ ';') || c = '=' || ('@' ≤ c && c ≤ '_') || ('a' ≤ c && c ≤ '\x7e') ||
    c = '"'

/-- Whether a character may stand in a query. -/
def isQueryChar (c : Char) : Bool :=
  c = '!' || ('$' ≤ c && c ≤ ';') || c = '=' || ('?' ≤ c && c ≤ '\x7e')

/-- The parts of a text between occurrences of a character. -/
def split (c : Char) (cs : List Char) : List (List Char) :=
  cs.foldr (fun d parts =>
    if d = c then [] :: parts
    else match parts with
      | [] => [[d]]
      | part :: rest => (d :: part) :: rest) [[]]

/-- A character of a path as it arrives. -/
def arriving : Char → List Char
  | '"' => "%22".toList
  | '{' => "%7B".toList
  | '}' => "%7D".toList
  | '\\' => ['/']
  | c => [c]

/-- A part of a path as it arrives. -/
def arrived (part : String) : String := String.ofList (part.toList.flatMap arriving)

/-- The value of a hexadecimal digit. -/
def hexValue? (c : Char) : Option Nat :=
  "0123456789abcdef".toList.idxOf? c.toLower

/-- The bytes that a name or value of a query stands for: a plus sign is a blank, and two
hexadecimal digits after a percent sign are a byte. -/
def queryBytes : List Char → List UInt8
  | [] => []
  | '+' :: rest => 32 :: queryBytes rest
  | '%' :: high :: low :: rest =>
    match hexValue? high, hexValue? low with
    | some h, some l => UInt8.ofNat (h * 16 + l) :: queryBytes rest
    | _, _ => 37 :: queryBytes (high :: low :: rest)
  | c :: rest => UInt8.ofNat c.toNat :: queryBytes rest

/-- The text of a name or value of a query. What is no text in UTF-8 stays as it is. -/
def queryText (cs : List Char) : String :=
  (String.fromUTF8? ⟨(queryBytes cs).toArray⟩).getD (String.ofList cs)

/-- The names and values that a text of a query gives. -/
def queryOf (cs : List Char) : List (String × String) :=
  ((split '&' cs).filter (!·.isEmpty)).map fun part =>
    let (name, value) := part.span (· ≠ '=')
    (queryText name, queryText (value.drop 1))

namespace Call

/-- What follows the name of a call, up to the query that the call has. -/
def suffix (call : Call) : String :=
  (if call.status then "/status" else "") ++ (if call.verb = .get then "" else "?")

/-- The call whose name is followed by a question mark or a hash sign, and by what was left of
the name. -/
def cut (call : Call) : List Char → Option Call
  | '?' :: rest =>
    let query := rest.takeWhile (· ≠ '#')
    if query.all isQueryChar then
      let call' := { call with status := false }
      if query.length < rest.length then some { call' with query := queryOf query }
      else some { call' with query := queryOf (query ++ call.suffix.toList) ++ call.query }
    else none
  | _ => some { call with status := false, query := [] }

/-- The call that arrives, if the call can be sent. -/
def sent? (call : Call) : Option Call :=
  if !((call.space.getD "").toList.all isPathChar) then none
  else
    let call := { call with space := call.space.map arrived }
    match call.name with
    | none => some call
    | some name =>
      let (before, rest) := name.toList.span fun c => c ≠ '?' && c ≠ '#'
      if !(before.all isPathChar) then none
      else
        let call := { call with name := some (arrived (String.ofList before)) }
        if rest.isEmpty then some call else call.cut rest

end Call

end RingOperator.Api
