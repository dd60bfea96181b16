import FolderGrants.Review.Envelope
import FolderGrants.Review.MediaType

/-!
# Where reviews are asked for

Reviews are posted as JSON to one path.  A request to another path, with
another method, of another content type, or with a body that is broken JSON
or no review, is refused by status alone; everything else is answered with a
review, also where the review is a denial.
-/

namespace FolderGrants

/-- A request over HTTP. -/
structure Post where
  method : String := "POST"
  /-- The path, perhaps with a host before it and a query after it. -/
  address : String
  contentType : Option String := some "application/json"
  body : String

namespace Endpoint

/-- The path that reviews are posted to. -/
def path : String := "/validate-rbac-kubevirt-io-v1alpha1-foldertree"

/-- The envelope in a body, or the status that refuses the body. -/
def readBody (body : String) : Except Nat Envelope :=
  (Envelope.decode.ofText body).mapError fun stop =>
    match stop.why with
    | .flaw _ => 400
    | .misfit _ => 422

/-- The envelope in a request, or the status that refuses the request. -/
def read (p : Post) : Except Nat Envelope :=
  if Http.Target.pathOf p.address ≠ path then .error 404
  else if p.method ≠ "POST" then .error 405
  else if !p.contentType.any MediaType.isJson then .error 415
  else readBody p.body

/-- The status and the review that answer a request. -/
def answer {σ : Type} (a : Authority σ) (p : Post) : StateM σ (Nat × Option Json) := fun s =>
  match read p with
  | .error status => ((status, none), s)
  | .ok e =>
    match e.request with
    | none => ((200, some Envelope.withoutRequest), s)
    | some q =>
      let (r, s) := q.review a s
      ((200, some (e.answer r)), s)

end Endpoint

end FolderGrants
