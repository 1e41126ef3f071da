import HttpDispatch.Text.Basic

/-!
The verbs that an endpoint can be registered for, and the two tokens that ask about a route
instead of running it.
-/

namespace HttpDispatch

inductive Verb where
  | get
  | post
  | put
  | patch
  | delete
  deriving DecidableEq

namespace Verb

/-- Every verb, in the order in which verbs are sorted. -/
def all : List Verb := [get, post, put, patch, delete]

def token : Verb → String
  | get => "GET"
  | post => "POST"
  | put => "PUT"
  | patch => "PATCH"
  | delete => "DELETE"

/-- The verb of a method token; letter case counts. -/
def ofToken? (text : String) : Option Verb := all.find? fun verb => verb.token == text

def rank (verb : Verb) : Nat := all.idxOf verb

theorem ofToken?_token (verb : Verb) : ofToken? verb.token = some verb := by
  cases verb <;> decide

theorem token_of_ofToken? {text : String} {verb : Verb} (found : ofToken? text = some verb) :
    verb.token = text := by
  simpa using List.find?_some found

end Verb

/-- The tokens answered from the registrations of a route without running any of them. -/
def isMetaToken (token : String) : Bool := token == "HEAD" || token == "OPTIONS"

end HttpDispatch
