import QueryCanvas.Http.Target

/-!
# Hosts

What a service leaves to whatever runs it: how deep it may go into a value before it is stopped,
when it reads one and when it shows one, and how a decoded path is spelled again once the request
is over. None of this is up to the service, so what is said of it is said of every host.
-/

namespace QueryCanvas.Http

/-- What runs a service. -/
structure Host where
  /-- The most lists and records, one in the other, that a body is read with. -/
  readDepth : Nat
  /-- The most lists and records, one in the other, that an input is shown with. -/
  shownDepth : Nat
  /-- A decoded path as the log shows it, of a request with these headers. -/
  spell : List (String × String) → List Char → String

/-- A character of a path as it is spelled: question marks and hashes are encoded, tabs and line breaks left out. -/
def respelledChar : Char → List Char
  | '?' => ['%', '3', 'F']
  | '#' => ['%', '2', '3']
  | '\t' | '\n' | '\r' => []
  | c => [c]

/-- The host that is met as a rule. -/
def Host.usual : Host where
  readDepth := 9990
  shownDepth := 930
  spell _ path := String.ofList (path.flatMap respelledChar)

example : Host.usual.spell [] ['/', 'a', '?', ' ', 'b', '\n'] = "/a%3F b" := by decide

end QueryCanvas.Http
