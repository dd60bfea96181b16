import FolderGrants.Api.Server
import FolderGrants.Review.Authority

/-!
# Acting as a requester

A request is made in another user's name by headers that carry the name, the
groups and the identity.  A user whose particulars cannot be written as
headers cannot be acted for; the identity is looked at first.
-/

namespace FolderGrants

namespace Requester

/-- The fault of a user for whom no client can be made. -/
def unusable (r : Requester) (why : String) : Fault := .impersonation r.username why

/-- A header of the given name. -/
def header (r : Requester) (fault name value : String) : Except Fault (String × String) :=
  if Http.isHeaderValue value then .ok (name, value)
  else .error (r.unusable (fault ++ "failed to parse header value"))

/-- The headers that make requests the requester's. -/
def headers (r : Requester) : Except Fault (List (String × String)) := do
  let uid ← (r.uid.toList).mapM (r.header "invalid uid: " "impersonate-uid")
  let user ← r.header "HttpError: " "impersonate-user" r.username
  let groups ← r.groups.mapM (r.header "HttpError: " "impersonate-group")
  return groups ++ uid ++ [user]

end Requester

/-- Sends requests with more headers. -/
def Transport.withHeaders {σ : Type} (t : Transport σ) (headers : List (String × String)) :
    Transport σ := fun q => t { q with headers := q.headers ++ headers }

/-- Reviews that try changes out over HTTP. -/
def Authority.overHttp {σ : Type} (t : Transport σ) (trusted : List String)
    (clock : StateM σ Int) : Authority σ where
  trusted := trusted
  actAs r := do
    let headers ← Action.ofExcept r.headers
    return Trials.overHttp (t.withHeaders headers)
  clock := clock

end FolderGrants
