import FolderGrants.Desired.Basic
import FolderGrants.Json.Misfit

/-!
# Faults

Everything that can go wrong with a tree, a pass or a review.  A fault names
what it concerns, so that its message can stand in a status condition or in
the answer to a review.  A fault is *retryable* when trying again later may
help without a change to the tree: the server's refusals are not, save for
conflicting and throttled requests.
-/

namespace FolderGrants

/-- The API server's answer to a request it did not fulfil. -/
structure Refusal where
  status : String
  message : String
  reason : String
  code : Nat
  deriving DecidableEq, Repr, Inhabited

/-- Why a request to the API server failed. -/
inductive RequestFailure where
  /-- The server answered with a refusal. -/
  | refused (r : Refusal)
  /-- An answer in lines had no line end. -/
  | missingLineEnd
  /-- The request did not get through. -/
  | service (message : String)
  /-- The answer was not what was asked for. -/
  | unreadable (message : String)
  /-- The call could not be written as a request. -/
  | unwritable (message : String)
  deriving DecidableEq, Repr, Inhabited

/-- What can go wrong. -/
inductive Fault where
  /-- A request to the API server failed. -/
  | request (why : RequestFailure)
  /-- A request or an object makes no sense. -/
  | invalid (tree message : String)
  /-- A tree contradicts itself. -/
  | conflict (c : Conflict)
  /-- The requester could not make the change themselves. -/
  | escalation (operation ns binding template message : String)
  /-- No client could be made that acts as the user. -/
  | impersonation (user message : String)
  /-- An object does not have the form of its kind. -/
  | malformed (kind : Option String) (message : String)
  /-- Something went wrong on our side. -/
  | internal (context message : String)
  deriving DecidableEq, Repr, Inhabited

namespace Refusal

/-- The refusal with all its fields. -/
def details (r : Refusal) : String :=
  "ErrorResponse \x7b status: " ++ Text.quoted r.status ++ ", message: " ++ Text.quoted r.message ++
    ", reason: " ++ Text.quoted r.reason ++ ", code: " ++ toString r.code ++ " \x7d"

/-- The wording of a refusal. -/
def text (r : Refusal) : String :=
  "ApiError: " ++ r.message ++ ": " ++ r.reason ++ " (" ++ r.details ++ ")"

/-- Whether the server found no such object. -/
def isNotFound (r : Refusal) : Bool := r.code == 404

/-- Whether trying again may help: the server is at fault, or the request
conflicted with another one, or there were too many requests. -/
def isRetryable (r : Refusal) : Bool :=
  !(400 ≤ r.code && r.code < 500) || r.code == 409 || r.code == 429

end Refusal

/-- The wording of a failed request. -/
def RequestFailure.text : RequestFailure → String
  | refused r => r.text
  | missingLineEnd => "Error finding newline character"
  | service message => "ServiceError: " ++ message
  | unreadable message => "Error deserializing response: " ++ message
  | unwritable message => "Failed to build request: " ++ message

namespace Fault

/-- A fault of a request that concerns no known tree. -/
def invalidRequest (message : String) : Fault := invalid "unknown" message

/-- A refusal as a fault. -/
def refused (r : Refusal) : Fault := request (.refused r)

/-- The wording of a fault. -/
def message : Fault → String
  | request why => "kubernetes error: " ++ why.text
  | invalid tree message => "validation error for " ++ tree ++ ": " ++ message
  | conflict c =>
    "inheritance conflict in " ++ c.tree ++ ": template '" ++ c.template ++ "' from folder '" ++
      c.folder ++ "' resolves to an existing RoleBinding in namespace '" ++ c.ns ++ "'"
  | escalation operation ns binding template message =>
    "privilege escalation prevented: failed to validate " ++ operation ++ " RoleBinding '" ++
      binding ++ "' in namespace '" ++ ns ++ "' for template '" ++ template ++ "': " ++ message
  | impersonation user message => "impersonation error for user " ++ user ++ ": " ++ message
  | malformed _ message => "serialization error: " ++ message
  | internal context message => "internal error [" ++ context ++ "]: " ++ message

/-- Whether trying again later may help. -/
def isRetryable : Fault → Bool
  | request (.refused r) => r.isRetryable
  | request _ => true
  | impersonation .. => true
  | internal .. => true
  | invalid .. | conflict _ | escalation .. | malformed .. => false

/-- Whether the server found no such object. -/
def isNotFound : Fault → Bool
  | request (.refused r) => r.isNotFound
  | _ => false

end Fault

end FolderGrants
