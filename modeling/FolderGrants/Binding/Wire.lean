import FolderGrants.Binding.Basic

/-!
# Role bindings on the wire

How role bindings are written as JSON and read back.  A role binding always
shows its kind; on reading, a kind that is given has to be the right one.
-/

namespace FolderGrants

open Json (str obj arr)

namespace Subject

/-- Reads a subject of a role binding. -/
def decodeBound : Decoder Subject :=
  .lenient "Subject" <|
    Subject.mk <$> .orElse "kind" .text "" <*> .orElse "name" .text "" <*>
      .optional "namespace" .text <*> .optional "apiGroup" .text

end Subject

namespace RoleRef

/-- Reads the role reference of a role binding. -/
def decodeBound : Decoder RoleRef :=
  .lenient "RoleRef" <|
    RoleRef.mk <$> .orElse "apiGroup" .text "" <*> .orElse "kind" .text "" <*>
      .orElse "name" .text ""

end RoleRef

namespace Binding

/-- The group and version of role bindings. -/
def apiVersion : String := rbacGroup ++ "/v1"

/-- The kind of role bindings. -/
def kind : String := "RoleBinding"

/-- A role binding as JSON. -/
def encode (b : Binding) : Json :=
  obj ([("apiVersion", str apiVersion), ("kind", str kind), ("metadata", b.metadata.encode),
    ("roleRef", b.roleRef.encode)] ++
    Json.optional "subjects" (fun l => arr (l.map Subject.encode)) b.subjects)

/-- Reads a role binding. -/
def decode : Decoder Binding :=
  .lenient "RoleBinding" <|
    (fun _ _ m r s => Binding.mk m s r) <$>
      .withDefault "apiVersion" (.exactly apiVersion) () <*>
      .withDefault "kind" (.exactly kind) () <*>
      .orElse "metadata" Metadata.decode {} <*>
      .orElse "roleRef" RoleRef.decodeBound ⟨"", "", ""⟩ <*>
      .optional "subjects" (.list Subject.decodeBound)

end Binding

end FolderGrants
