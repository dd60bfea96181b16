import FolderGrants.Schema.Basic
import FolderGrants.Tree.Stored

/-!
# The definition of folder trees

What the API server has to be told before it stores folder trees: what they
are called, what their fields are, and which columns a listing shows.
-/

namespace FolderGrants

/-- A reference to a role. -/
def RoleRef.schema : Schema :=
  .described "Role granted by the generated RoleBindings" <| .record
    [("apiGroup", true, .described "API group of the referenced role" .text),
     ("kind", true, .described "Role or ClusterRole" .text),
     ("name", true, .described "Role name" .text)]

/-- A subject. -/
def Subject.schema : Schema :=
  .described "Identity a RoleBinding grants to" <| .record
    [("apiGroup", false,
       .described "API group, \x60rbac.authorization.k8s.io\x60 for users and groups"
         (.nullable .text)),
     ("kind", true, .described "User, Group or ServiceAccount" .text),
     ("name", true, .described "Subject name" .text),
     ("namespace", false, .described "Namespace, for ServiceAccount subjects" (.nullable .text))]

/-- A template. -/
def Template.schema : Schema :=
  .described "Blueprint for the RoleBindings a folder produces" <| .record
    [("name", true, .described "Template name, unique within its folder" .text),
     ("propagate", false,
       .described "Inherit into descendant folders. Absent means false." (.nullable .flag)),
     ("roleRef", true, RoleRef.schema),
     ("subjects", false,
       .standing (.arr [])
         (.described "Subjects bound by the generated RoleBindings" (.list Subject.schema)))]

/-- A folder. -/
def Folder.schema : Schema :=
  .described "A named group of namespaces sharing RoleBinding templates" <| .record
    [("name", true, .described "Folder name, unique within the tree" .text),
     ("namespaces", false, .described "Namespaces owned by this folder" (.list .text)),
     ("roleBindingTemplates", false,
       .described "Templates applied to this folder's namespaces" (.list Template.schema))]

/-- A node; the nodes below it are not checked. -/
def Node.schema : Schema :=
  .record
    [("name", true, .described "Folder name this node refers to" .text),
     ("subfolders", false, .described "Child nodes" (.list .anything))]

/-- A specification. -/
def Spec.schema : Schema :=
  .described "Specification for a FolderTree" <| .record
    [("folders", false,
       .described "Folder definitions, referenced by name from \x60tree\x60" (.list Folder.schema)),
     ("tree", false, .described "Root of the folder hierarchy" (.nullable Node.schema))]

/-- A condition. -/
def Condition.schema : Schema :=
  .described "Kubernetes-style condition for status reporting" <| .record
    [("lastTransitionTime", true, .described "Last time the condition transitioned" .date),
     ("message", true, .described "Human-readable message" .text),
     ("reason", true, .described "Machine-readable reason for the condition" .text),
     ("status", true,
       .described "Status of the condition (True, False, Unknown)"
         (.word (([.yes, .no, .unknown] : List Truth).map Truth.text))),
     ("type", true, .described "Type of condition (Ready, ProcessingFailed)" .text)]

/-- A status. -/
def Status.schema : Schema :=
  .described "Status of a FolderTree" <| .nullable <| .record
    [("conditions", false,
       .described "Ready / ProcessingFailed conditions" (.list Condition.schema)),
     ("processedGeneration", false,
       .standing (.int 0)
         (.described "\x60metadata.generation\x60 of the last processed spec" .integer))]

namespace FolderTree

/-- What folder trees are called where they are listed. -/
def plural : String := "foldertrees"

/-- A tree as it is stored. -/
def schema : Schema :=
  .described "Auto-generated derived type for FolderTreeSpec via \x60CustomResource\x60" <| .record
    [("spec", true, Spec.schema), ("status", false, Status.schema)]

/-- A column of a listing. -/
def column (name type path : String) : Json :=
  .obj [("jsonPath", .str path), ("name", .str name), ("type", .str type)]

/-- The only version. -/
def version : Json :=
  .obj
    [("name", .str "v1alpha1"), ("served", .bool true), ("storage", .bool true),
     ("schema", .obj [("openAPIV3Schema", .obj (("title", .str kind) :: schema.members))]),
     ("subresources", .obj [("status", .obj [])]),
     ("additionalPrinterColumns", .arr
       [column "Ready" "string" ".status.conditions[?(@.type==\"Ready\")].status",
        column "Age" "date" ".metadata.creationTimestamp"])]

/-- The definition of folder trees. -/
def definition : Json :=
  Json.settled <| .obj
    [("apiVersion", .str "apiextensions.k8s.io/v1"), ("kind", .str "CustomResourceDefinition"),
     ("metadata", .obj [("name", .str (plural ++ "." ++ group))]),
     ("spec", .obj
       [("group", .str group), ("scope", .str "Cluster"), ("versions", .arr [version]),
        ("names", .obj
          [("categories", .arr []), ("kind", .str kind), ("plural", .str plural),
           ("shortNames", .arr [.str "ft"]), ("singular", .str "foldertree")])])]

end FolderTree

end FolderGrants
