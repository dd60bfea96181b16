import FolderGrants.Template

/-!
# Folder trees

A specification consists of a tree of named nodes and of a list of folders.
Nodes carry structure only; the folder of the same name supplies the
namespaces and the templates.  Names may repeat: of several folders with one
name the last one counts for the tree, and a node whose name no folder has
only groups the nodes below it.  A folder that no node names stands alone.
-/

namespace FolderGrants

/-- A node of the hierarchy. -/
structure Node where
  name : String
  subfolders : List Node
  deriving BEq, Repr, Inhabited

/-- A group of namespaces with the templates for them. -/
structure Folder where
  name : String
  templates : List Template := []
  namespaces : List String := []
  deriving DecidableEq, Repr, Inhabited

/-- What a tree asks for. -/
structure Spec where
  root : Option Node := none
  folders : List Folder := []
  deriving BEq, Repr, Inhabited

mutual

/-- The names of a node and of all nodes below it, from the top. -/
def Node.names : Node → List String
  | ⟨name, subfolders⟩ => name :: Node.namesOf subfolders

/-- The names of some nodes and of all nodes below them. -/
def Node.namesOf : List Node → List String
  | [] => []
  | n :: rest => n.names ++ Node.namesOf rest

end

namespace Spec

/-- The names of all nodes; a name that several nodes bear is repeated. -/
def nodeNames (s : Spec) : List String :=
  match s.root with
  | none => []
  | some root => root.names

/-- The folder of that name; of several, the last one. -/
def folder? (s : Spec) (name : String) : Option Folder :=
  (s.folders.filter fun f => f.name == name).getLast?

/-- The folders that no node names, in the order of the list. -/
def standalone (s : Spec) : List Folder :=
  s.folders.filter fun f => !s.nodeNames.contains f.name

end Spec

end FolderGrants
