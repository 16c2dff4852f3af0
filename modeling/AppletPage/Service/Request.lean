import AppletPage.Text.Blank
import AppletPage.Text.Percent
import AppletPage.Text.Split

/-! Requests, and the words of a query. -/

namespace AppletPage

open Text

structure Request where
  method : String
  /-- The path after decoding. -/
  path : String
  /-- What stands behind the first question mark, as it was sent. -/
  query : Option String := none
  /-- The type of the body, as it was sent. -/
  contentType : Option Bytes := none
  body : Bytes := []
deriving DecidableEq

namespace Request

def decodePart (text : List Char) : String :=
  Percent.decode (text.map fun c => if c = '+' then ' ' else c)

/-- The name and the value of a pair, which is empty if there is no equals sign. -/
def decodePair (pair : List Char) : String × String :=
  (decodePart (pair.takeWhile (· ≠ '=')), decodePart ((pair.dropWhile (· ≠ '=')).drop 1))

def pairs (query : String) : List (String × String) :=
  ((splitAt '&' query.toList).filter (· ≠ [])).map decodePair

def parameter? (request : Request) (name : String) : Option String :=
  ((pairs (request.query.getD "")).reverse.find? (·.1 = name)).map (·.2)

def origin : String := "http://testserver"

/-- A character of a path in an address; those that would end the path stand there by their
numbers. -/
def addressChar (c : Char) : List Char :=
  if c = '?' then "%3F".toList
  else if c = '#' then "%23".toList
  else if c = '\\' then "%5C".toList
  else [c]

/-- A path as it stands in an address, behind a slash. -/
def addressPath (path : String) : List Char :=
  let path := path.toList.flatMap addressChar
  if path.isEmpty || path.head? = some '/' then path else '/' :: path

/-- The path as the journal shows it: without line ends and tabulators. -/
def shownPath (request : Request) : String :=
  String.ofList ((addressPath request.path).filter fun c => !(c = '\t' || c = '\n' || c = '\r'))

end Request

end AppletPage
