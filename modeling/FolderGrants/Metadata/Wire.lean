import FolderGrants.Json.Decoder
import FolderGrants.Metadata.Basic

/-!
# Metadata on the wire

How metadata is written as JSON and read back.  Absent fields are left out;
times are cut to whole seconds.
-/

namespace FolderGrants

open Json (str obj arr)

/-- Texts by name as JSON. -/
def Labels.encode (l : Labels) : Json := obj (l.entries.map fun e => (e.1, str e.2))

/-- Reads texts by name. -/
def Labels.decode : Decoder Labels := (Decoder.entries .text).map OrderedMap.ofList

namespace Owner

/-- An owner as JSON. -/
def encode (o : Owner) : Json :=
  obj ([("apiVersion", str o.apiVersion)] ++
    Json.optional "blockOwnerDeletion" Json.bool o.blockOwnerDeletion ++
    Json.optional "controller" Json.bool o.controller ++
    [("kind", str o.kind), ("name", str o.name), ("uid", str o.uid)])

/-- Reads an owner. -/
def decode : Decoder Owner :=
  .lenient "OwnerReference" <|
    Owner.mk <$> .orElse "apiVersion" .text "" <*> .orElse "kind" .text "" <*>
      .orElse "name" .text "" <*> .orElse "uid" .text "" <*>
      .optional "controller" .bool <*> .optional "blockOwnerDeletion" .bool

end Owner

namespace FieldClaim

/-- A claim on fields as JSON. -/
def encode (c : FieldClaim) : Json :=
  obj (Json.optional "apiVersion" str c.apiVersion ++ Json.optional "fieldsType" str c.fieldsType ++
    Json.optional "fieldsV1" id c.fields ++ Json.optional "manager" str c.manager ++
    Json.optional "operation" str c.operation ++ Json.optional "subresource" str c.subresource ++
    Json.optional "time" (fun t => str t.toSecondsText) c.time)

/-- Reads a claim on fields. -/
def decode : Decoder FieldClaim :=
  .lenient "ManagedFieldsEntry" <|
    FieldClaim.mk <$> .optional "apiVersion" .text <*> .optional "fieldsType" .text <*>
      .optional "fieldsV1" .any <*> .optional "manager" .text <*>
      .optional "operation" .text <*> .optional "subresource" .text <*>
      .optional "time" .instant

end FieldClaim

namespace Metadata

/-- Metadata as JSON. -/
def encode (m : Metadata) : Json :=
  obj (Json.optional "annotations" Labels.encode m.annotations ++
    Json.optional "creationTimestamp" (fun t => str t.toSecondsText) m.creationTimestamp ++
    Json.optional "deletionGracePeriodSeconds" Json.int m.deletionGracePeriodSeconds ++
    Json.optional "deletionTimestamp" (fun t => str t.toSecondsText) m.deletionTimestamp ++
    Json.optional "finalizers" (fun l => arr (l.map str)) m.finalizers ++
    Json.optional "generateName" str m.generateName ++
    Json.optional "generation" Json.int m.generation ++
    Json.optional "labels" Labels.encode m.labels ++
    Json.optional "managedFields" (fun l => arr (l.map FieldClaim.encode)) m.managedFields ++
    Json.optional "name" str m.name ++ Json.optional "namespace" str m.ns ++
    Json.optional "ownerReferences" (fun l => arr (l.map Owner.encode)) m.owners ++
    Json.optional "resourceVersion" str m.resourceVersion ++
    Json.optional "selfLink" str m.selfLink ++ Json.optional "uid" str m.uid)

/-- Reads metadata. -/
def decode : Decoder Metadata :=
  .lenient "ObjectMeta" <|
    Metadata.mk <$> .optional "annotations" Labels.decode <*>
      .optional "creationTimestamp" .instant <*>
      .optional "deletionGracePeriodSeconds" .int64 <*>
      .optional "deletionTimestamp" .instant <*>
      .optional "finalizers" (.list .text) <*> .optional "generateName" .text <*>
      .optional "generation" .int64 <*> .optional "labels" Labels.decode <*>
      .optional "managedFields" (.list FieldClaim.decode) <*> .optional "name" .text <*>
      .optional "namespace" .text <*> .optional "ownerReferences" (.list Owner.decode) <*>
      .optional "resourceVersion" .text <*> .optional "selfLink" .text <*>
      .optional "uid" .text

end Metadata

end FolderGrants
