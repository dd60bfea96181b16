import FolderGrants.Tree.Basic

/-!
# Emissions

What a specification asks for, one demand at a time: *this template, owned or
inherited by this folder, in this namespace*.  A folder emits its own
templates and those that the folders above it hand down into each of its
namespaces.  A template is handed down if it propagates, and then to every
node below, through nodes that only group; a template that does not stays
with its folder.  A folder that no node names emits its own templates alone.

Emissions are listed from the root downwards, each node before the nodes
below it, and standalone folders last.  Within a folder they are listed by
namespace, the inherited templates first.
-/

namespace FolderGrants

/-- A demand for a template in a namespace, on behalf of a folder. -/
structure Emission where
  folder : String
  template : Template
  ns : String
  deriving DecidableEq, Repr, Inhabited

namespace Folder

/-- Every given template in every namespace of the folder. -/
def emit (f : Folder) (templates : List Template) : List Emission :=
  f.namespaces.flatMap fun ns => templates.map fun t => ⟨f.name, t, ns⟩

/-- The templates that folders below inherit. -/
def handedDown (f : Folder) : List Template := f.templates.filter Template.propagates

end Folder

namespace Spec

mutual

/-- The emissions of a node that inherits the given templates, and of all
nodes below it. -/
def emissionsAt (s : Spec) (inherited : List Template) : Node → List Emission
  | ⟨name, subfolders⟩ =>
    match s.folder? name with
    | none => s.emissionsBelow inherited subfolders
    | some f =>
      f.emit (inherited ++ f.templates) ++ s.emissionsBelow (inherited ++ f.handedDown) subfolders

/-- The emissions of nodes that inherit the given templates. -/
def emissionsBelow (s : Spec) (inherited : List Template) : List Node → List Emission
  | [] => []
  | n :: rest => s.emissionsAt inherited n ++ s.emissionsBelow inherited rest

end

/-- The emissions of a specification, in order. -/
def emissions (s : Spec) : List Emission :=
  (match s.root with
    | none => []
    | some root => s.emissionsAt [] root) ++
  s.standalone.flatMap fun f => f.emit f.templates

end Spec

end FolderGrants
