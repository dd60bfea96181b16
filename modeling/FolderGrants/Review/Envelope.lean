import FolderGrants.Api.Answer
import FolderGrants.Review.Basic

/-!
# The envelope of a review

A review travels as a JSON object that names its own format, carries the
request, and later the answer.  The objects under review are only looked at as
far as their metadata goes; whether they are trees is for the review to say.
-/

namespace FolderGrants

open Json (str obj)

namespace Verb

/-- The verbs as they are written. -/
def texts : List (String × Verb) :=
  [("CREATE", create), ("UPDATE", update), ("DELETE", delete), ("CONNECT", connect)]

/-- Reads a verb. -/
def decode : Decoder Verb := .variant texts

end Verb

/-- Reads an object with its metadata. -/
def LooseObject.decode : Decoder LooseObject :=
  Decoder.map (fun o => ⟨o.1, o.2⟩) <| .loose "DynamicObject" <|
    .withDefault "metadata" Metadata.decode {}

namespace ReviewRequest

/-- Reads the name of a kind. -/
def decodeKind : Decoder Unit :=
  .declared "GroupVersionKind" <|
    (fun _ _ _ => ()) <$> .required "group" .text <*> .required "version" .text <*>
      .required "kind" .text

/-- Reads the name of a resource. -/
def decodeResource : Decoder Unit :=
  .declared "GroupVersionResource" <|
    (fun _ _ _ _ => ()) <$> .required "group" .text <*> .required "version" .text <*>
      .required "resource" .text <*> .withDefault "api_version" .text ""

/-- Reads a request. -/
def decode : Decoder ReviewRequest :=
  .declared "AdmissionRequest" <|
    (fun uid _ _ sub _ _ _ _ _ verb user object old _ _ =>
        ⟨uid, sub, verb, user, object, old⟩) <$>
      .required "uid" .text <*> .required "kind" decodeKind <*>
      .required "resource" decodeResource <*> .optional "subResource" .text <*>
      .optional "requestKind" decodeKind <*> .optional "requestResource" decodeResource <*>
      .optional "requestSubResource" .text <*> .withDefault "name" .text "" <*>
      .optional "namespace" .text <*> .required "operation" Verb.decode <*>
      .required "userInfo" UserInfo.decode <*>
      .optionalInPlace "object" LooseObject.decode <*>
      .optionalInPlace "oldObject" LooseObject.decode <*> .withDefault "dryRun" .bool false <*>
      .optional "options" .any

end ReviewRequest

namespace ReviewAnswer

/-- Reads an answer, of which nothing is used. -/
def decode : Decoder Unit :=
  .declared "AdmissionResponse" <|
    (fun _ _ _ _ _ _ _ => ()) <$>
      .required "uid" .text <*> .required "allowed" .bool <*>
      .required "status" Answer.decodeStatus <*>
      .optionalInPlace "patch" (.list (.intBetween 0 255 "u8")) <*>
      .optionalInPlace "patchType" (.variant [("JSONPatch", ())]) <*>
      .withDefault "auditAnnotations" (.entries .text) [] <*>
      .optionalInPlace "warnings" (.list .text)

end ReviewAnswer

/-- A review as it travels. -/
structure Envelope where
  apiVersion : String
  kind : String
  request : Option ReviewRequest

namespace Envelope

/-- Reads what the envelope says about its format. -/
def format : Record (String × String) :=
  Prod.mk <$> .required "apiVersion" .text <*> .required "kind" .text

/-- Reads what the envelope carries. -/
def contents : Record (Option ReviewRequest) :=
  (fun q _ => q) <$> .optional "request" ReviewRequest.decode <*>
    .optional "response" ReviewAnswer.decode

/-- Reads an envelope.  What it says about its format is looked at last. -/
def decode : Decoder Envelope where
  form := .record .loose "AdmissionReview" contents.fields
  ofJson j := do
    let (request, others) ← (Decoder.loose "AdmissionReview" contents).ofJson j
    let (apiVersion, kind) ← (format.read (.ofMembers others true)).result
    return ⟨apiVersion, kind, request⟩

/-- The answer to a request, in the format of the request. -/
def answer (e : Envelope) (a : ReviewAnswer) : Json :=
  obj [("apiVersion", str e.apiVersion), ("kind", str e.kind),
    ("response", obj [("uid", str a.uid), ("allowed", .bool a.allowed),
      ("status", obj (Json.optional "message" str a.denial))])]

/-- The answer to an envelope without a request. -/
def withoutRequest : Json :=
  obj [("apiVersion", str "admission.k8s.io/v1beta1"), ("kind", str "AdmissionReview"),
    ("response", obj [("uid", str ""), ("allowed", .bool false),
      ("status", obj [("status", str "Failure"),
        ("message", str "failed to convert AdmissionReview into AdmissionRequest"),
        ("reason", str "InvalidRequest")])])]

end Envelope

end FolderGrants
