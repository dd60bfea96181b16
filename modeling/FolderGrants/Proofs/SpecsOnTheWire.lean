import FolderGrants.Proofs.PrintedSpecs
import FolderGrants.Proofs.SettledReading

/-!
# Specifications survive the wire

A specification is written as a value and printed as a text.  The value is always read
back.  The text is read back as far as a reader of texts goes, which is 127 levels.

* `Spec.written_is_read_back` — what is written of a specification is read as it.
-/

namespace FolderGrants.Spec

open Json (str arr obj)

/-- **A specification survives the wire.**  Whatever a specification is like, what it is
written as is read back as it, with the members as they are written as well as in the
order of their names, and so is the text that is printed of it if that has no more than
127 levels.  And if some value is read as a specification, written in whatever order and
with whatever besides, then what that specification is written as is read as the same
one. -/
theorem written_is_read_back :
    (∀ s : Spec, decode.ofJson s.encode = .ok s ∧ decode.ofJson s.encode.settled = .ok s ∧
      (s.encode.depth < 128 → decode.ofText s.encode.print = .ok s)) ∧
      ∀ (j : Json) (s : Spec), decode.ofJson j = .ok s →
        decode.ofJson j.settled = .ok s ∧ decode.ofJson s.encode = .ok s :=
  ⟨fun s => ⟨readsBack s, ofJson_settled (readsBack s), ofText_print⟩,
    fun _ s h => ⟨ofJson_settled h, readsBack s⟩⟩

/-- A specification written by hand: in another order, with lists in place of objects, a
member that nobody knows, and empty, absent and explicit values side by side. -/
def byHand : Json :=
  obj [("folders", arr [arr [str "dev"],
      obj [("namespaces", arr [str "ops-ns"]), ("note", .null), ("name", str "ops"),
        ("roleBindingTemplates", arr [obj [("roleRef", arr [str "g", str "ClusterRole",
          str "edit"]), ("propagate", .bool false), ("name", str "edit"), ("subjects", arr
          [obj [("kind", str "User"), ("name", str "ada"), ("namespace", str "")]])]])]]),
    ("tree", obj [("subfolders", arr [obj [("name", str "ops"), ("subfolders", arr [])]]),
      ("name", str "dev")])]

/-- What it says. -/
def saidByHand : Spec where
  root := some ⟨"dev", [⟨"ops", []⟩]⟩
  folders := [{ name := "dev" },
    { name := "ops", namespaces := ["ops-ns"]
      templates := [⟨"edit", [{ kind := "User", name := "ada", ns := some "" }],
        ⟨"g", "ClusterRole", "edit"⟩, some false⟩] }]

theorem written_is_read_back_byHand :
    decode.ofJson byHand = .ok saidByHand ∧ decode.ofJson byHand.settled = .ok saidByHand ∧
      decode.ofJson saidByHand.encode = .ok saidByHand ∧ saidByHand.encode.depth < 128 ∧
      decode.ofText saidByHand.encode.print = .ok saidByHand := by
  have hread : decode.ofJson byHand = .ok saidByHand := rfl
  have hlevels : saidByHand.encode.depth < 128 := by decide
  obtain ⟨hwritten, hagain⟩ := written_is_read_back
  obtain ⟨hsettled, hencoded⟩ := hagain byHand saidByHand hread
  obtain ⟨-, -, hprinted⟩ := hwritten saidByHand
  exact ⟨hread, hsettled, hencoded, hlevels, hprinted hlevels⟩

end FolderGrants.Spec
