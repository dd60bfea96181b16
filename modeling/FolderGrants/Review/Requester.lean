import FolderGrants.Json.Decoder

/-!
# Requesters

Who asks for a change: a name as the API server authenticated it, perhaps an
identity, and groups.  Without a name there is no requester.
-/

namespace FolderGrants

/-- The user behind a request. -/
structure Requester where
  username : String
  uid : Option String := none
  groups : List String := []
  deriving DecidableEq, Repr, Inhabited

/-- What the API server says about the user behind a request. -/
structure UserInfo where
  extra : Option (List (String × List String)) := none
  groups : Option (List String) := none
  uid : Option String := none
  username : Option String := none
  deriving DecidableEq, Repr, Inhabited

namespace UserInfo

/-- Reads what the API server says about a user. -/
def decode : Decoder UserInfo :=
  .lenient "UserInfo" <|
    UserInfo.mk <$> .optional "extra" (.entries (.list .text)) <*>
      .optional "groups" (.list .text) <*> .optional "uid" .text <*>
      .optional "username" .text

/-- The requester, if the user has a name; an empty identity is none. -/
def requester? (u : UserInfo) : Option Requester :=
  (u.username.filter (· ≠ "")).map fun username =>
    { username, uid := u.uid.filter (· ≠ ""), groups := u.groups.getD [] }

end UserInfo

end FolderGrants
