import FolderGrants.Json.Basic

/-!
# Schemas

What values of a field may be, as the API server is told: a text, a number, a
list, a record with fields of its own.  A schema may carry a description, and
the value that stands for an absent one.
-/

namespace FolderGrants

/-- What a value may be. -/
inductive Schema where
  | text
  | flag
  | integer
  | date
  /-- One of a few words. -/
  | word (among : List String)
  /-- A record about which nothing is known. -/
  | anything
  | list (items : Schema)
  /-- A record; the truth value says whether a field is required. -/
  | record (fields : List (String × Bool × Schema))
  | described (about : String) (s : Schema)
  /-- A value that may be `null`. -/
  | nullable (s : Schema)
  /-- A value that stands for an absent one. -/
  | standing (value : Json) (s : Schema)
  deriving Inhabited

namespace Schema

/-- The names of the required fields. -/
def requiredNames (fields : List (String × Bool × Schema)) : List Json :=
  (fields.filter (·.2.1)).map fun f => .str f.1

/-- The member that says of which type a value is. -/
def typed (type : String) : String × Json := ("type", .str type)

mutual

/-- What the server is told of a schema. -/
def members : Schema → List (String × Json)
  | text => [typed "string"]
  | flag => [typed "boolean"]
  | integer => [("format", .str "int64"), typed "integer"]
  | date => [("format", .str "date-time"), typed "string"]
  | word among => [("enum", .arr (among.map .str)), typed "string"]
  | anything => [typed "object", ("x-kubernetes-preserve-unknown-fields", .bool true)]
  | list items => [("items", .obj items.members), typed "array"]
  | record fields =>
    [("properties", .obj (fieldMembers fields))] ++
      (if (requiredNames fields).isEmpty then []
        else [("required", .arr (requiredNames fields))]) ++ [typed "object"]
  | described about s => ("description", .str about) :: s.members
  | nullable s => ("nullable", .bool true) :: s.members
  | standing value s => ("default", value) :: s.members

def fieldMembers : List (String × Bool × Schema) → List (String × Json)
  | [] => []
  | (name, _, s) :: rest => (name, .obj s.members) :: fieldMembers rest

end

/-- A schema as JSON. -/
def encode (s : Schema) : Json := .obj s.members

end Schema

end FolderGrants
