import FolderGrants.Binding.Wire
import FolderGrants.Fault
import FolderGrants.Http.Basic
import FolderGrants.Json.Printer

/-!
# Answers of the API server

An answer holds an object, a list, or a status object that says how a call
ended.  A refusal names its reason in a status object; an answer that refuses
without one is reported with its status and its whole body.
-/

namespace FolderGrants

open Json (str obj)

namespace Refusal

/-- Reads a status object that reports a refusal. -/
def decode : Decoder Refusal :=
  .declared "ErrorResponse" <|
    (fun s m r c => ⟨s, m, r, c.toNat⟩) <$> .required "status" .text <*>
      .withDefault "message" .text "" <*> .withDefault "reason" .text "" <*>
      .required "code" (.intBetween 0 65535 "u16")

/-- A refusal as a status object. -/
def encode (r : Refusal) : Json :=
  obj [("apiVersion", str "v1"), ("code", .int r.code), ("kind", str "Status"),
    ("message", str r.message), ("reason", str r.reason), ("status", str r.status)]

/-- The refusal that an answer is. -/
def ofResponse (r : Http.Response) : Refusal :=
  match decode.ofText r.body with
  | .ok refusal => refusal
  | .error _ => ⟨r.statusText, Text.quoted r.body, "Failed to parse error data", r.code⟩

end Refusal

namespace Answer

variable {α : Type}

/-- Reads a cause among the details of a status object. -/
def decodeCause : Decoder Unit :=
  .declared "StatusCause" <|
    (fun _ _ _ => ()) <$> .withDefault "reason" .text "" <*>
      .withDefault "message" .text "" <*> .withDefault "field" .text ""

/-- Reads the details of a status object. -/
def decodeDetails : Decoder Unit :=
  .declared "StatusDetails" <|
    (fun _ _ _ _ _ _ => ()) <$> .withDefault "name" .text "" <*>
      .withDefault "group" .text "" <*> .withDefault "kind" .text "" <*>
      .withDefault "uid" .text "" <*> .withDefault "causes" (.list decodeCause) [] <*>
      .withDefault "retryAfterSeconds" (.intBetween 0 4294967295 "u32") 0

/-- Reads a status object, of which nothing is used. -/
def decodeStatus : Decoder Unit :=
  .declared "Status" <|
    (fun _ _ _ _ _ => ()) <$>
      .optionalInPlace "status" (.variant [("Success", ()), ("Failure", ())]) <*>
      .withDefault "code" (.intBetween 0 65535 "u16") 0 <*>
      .withDefault "message" .text "" <*> .withDefault "reason" .text "" <*>
      .optional "details" decodeDetails

/-- Reads a condition of a namespace. -/
def decodeNamespaceCondition : Decoder Unit :=
  .lenient "NamespaceCondition" <|
    (fun _ _ _ _ _ => ()) <$> .optional "lastTransitionTime" .instant <*>
      .optional "message" .text <*> .optional "reason" .text <*>
      .orElse "status" .text "" <*> .orElse "type" .text ""

/-- Reads what a namespace is to be. -/
def decodeNamespaceSpec : Decoder Unit :=
  .lenient "NamespaceSpec" <| (fun _ => ()) <$> .optional "finalizers" (.list .text)

/-- Reads what a namespace is. -/
def decodeNamespaceStatus : Decoder Unit :=
  .lenient "NamespaceStatus" <|
    (fun _ _ => ()) <$> .optional "conditions" (.list decodeNamespaceCondition) <*>
      .optional "phase" .text

/-- Reads a namespace, of which nothing is used. -/
def decodeNamespace : Decoder Unit :=
  .lenient "Namespace" <|
    (fun _ _ _ _ _ => ()) <$> .withDefault "apiVersion" (.exactly "v1") () <*>
      .withDefault "kind" (.exactly "Namespace") () <*>
      .orElse "metadata" Metadata.decode {} <*> .optional "spec" decodeNamespaceSpec <*>
      .optional "status" decodeNamespaceStatus

/-- Reads the metadata of a list. -/
def decodeListMetadata : Decoder Unit :=
  .lenient "ListMeta" <|
    (fun _ _ _ _ => ()) <$> .optional "continue" .text <*>
      .optional "remainingItemCount" .int64 <*> .optional "resourceVersion" .text <*>
      .optional "selfLink" .text

/-- Reads a list of role bindings; `null` is an empty one. -/
def decodeBindings : Decoder (List Binding) :=
  Decoder.map (·.1) <| .loose "ObjectList" <|
    (fun _ items => items.getD []) <$> .withDefault "metadata" decodeListMetadata () <*>
      .required "items" (.nullable (.list Binding.decode))

/-- Reads the object in the text of an answer. -/
def readText (d : Decoder α) (body : String) : Except Fault α :=
  (d.ofText body).mapError fun stop => .request (.unreadable (stop.located body.toList))

/-- Reads the object in an answer. -/
def readObject (d : Decoder α) (r : Http.Response) : Except Fault α :=
  if r.isRefusal then .error (.refused (.ofResponse r)) else readText d r.body

/-- Reads the answer to a deletion: how it ended, or what is being deleted. -/
def readDeletion (r : Http.Response) : Except Fault Unit := do
  let j ← readObject .any r
  if j.settled.member "kind" == str "Status" then readText decodeStatus r.body
  else (readText Binding.decode r.body).map fun _ => ()

end Answer

end FolderGrants
