import FolderGrants.Json.Decoder
import FolderGrants.Tree.Basic

/-!
# Specifications on the wire

How specifications are written as JSON and read back.  An absent optional
value and an empty list are left out, except that a template always shows
its subjects; whatever may be left out has a default on reading.
-/

namespace FolderGrants

open Json (str arr obj)

namespace Subject

/-- A subject as JSON. -/
def encode (s : Subject) : Json :=
  obj ([("kind", str s.kind), ("name", str s.name)] ++ Json.optional "namespace" str s.ns ++
    Json.optional "apiGroup" str s.apiGroup)

/-- Reads a subject of a template. -/
def decode : Decoder Subject :=
  .declared "Subject" <|
    Subject.mk <$> .required "kind" .text <*> .required "name" .text <*>
      .optional "namespace" .text <*> .optional "apiGroup" .text

end Subject

namespace RoleRef

/-- A role reference as JSON. -/
def encode (r : RoleRef) : Json :=
  obj [("apiGroup", str r.apiGroup), ("kind", str r.kind), ("name", str r.name)]

/-- Reads the role reference of a template. -/
def decode : Decoder RoleRef :=
  .declared "RoleRef" <|
    RoleRef.mk <$> .required "apiGroup" .text <*> .required "kind" .text <*>
      .required "name" .text

end RoleRef

namespace Template

/-- A template as JSON. -/
def encode (t : Template) : Json :=
  obj ([("name", str t.name), ("subjects", arr (t.subjects.map Subject.encode)),
    ("roleRef", t.roleRef.encode)] ++ Json.optional "propagate" Json.bool t.propagate)

/-- Reads a template. -/
def decode : Decoder Template :=
  .declared "RoleBindingTemplate" <|
    Template.mk <$> .required "name" .text <*>
      .withDefault "subjects" (.list Subject.decode) [] <*>
      .required "roleRef" RoleRef.decode <*> .optional "propagate" .bool

end Template

namespace Folder

/-- A folder as JSON. -/
def encode (f : Folder) : Json :=
  obj ([("name", str f.name)] ++ 
    Json.unlessEmpty "roleBindingTemplates" Template.encode f.templates ++
    Json.unlessEmpty "namespaces" str f.namespaces)

/-- Reads a folder. -/
def decode : Decoder Folder :=
  .declared "Folder" <|
    Folder.mk <$> .required "name" .text <*>
      .withDefault "roleBindingTemplates" (.list Template.decode) [] <*>
      .withDefault "namespaces" (.list .text) []

end Folder

namespace Node

mutual

/-- A node as JSON. -/
def encode : Node → Json
  | ⟨name, subfolders⟩ =>
    match encodeAll subfolders with
    | [] => obj [("name", str name)]
    | l => obj [("name", str name), ("subfolders", arr l)]

/-- Nodes as JSON. -/
def encodeAll : List Node → List Json
  | [] => []
  | n :: rest => n.encode :: encodeAll rest

end

/-- Reads a node that stands in no more than `levels` levels of arrays and
objects. -/
def decodeWithin : (levels : Nat) → Decoder Node
  | 0 => .plain fun j => .error (.ofJson j "struct TreeNode")
  | levels + 1 =>
    .declared "TreeNode" <|
      Node.mk <$> .required "name" .text <*>
        .withDefault "subfolders" (.list (decodeWithin levels)) []

/-- Reads a node with all nodes below it.  No text has more than 127 levels. -/
def decode : Decoder Node where
  form := (decodeWithin 128).form
  ofJson j := (decodeWithin (j.depth + 1)).ofJson j

end Node

namespace Spec

/-- A specification as JSON. -/
def encode (s : Spec) : Json :=
  obj (Json.optional "tree" Node.encode s.root ++
    Json.unlessEmpty "folders" Folder.encode s.folders)

/-- Reads a specification. -/
def decode : Decoder Spec :=
  .declared "FolderTreeSpec" <|
    Spec.mk <$> .optional "tree" Node.decode <*>
      .withDefault "folders" (.list Folder.decode) []

end Spec

end FolderGrants
