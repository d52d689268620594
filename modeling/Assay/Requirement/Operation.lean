import Assay.Requirement.Set

/-!
# Operations on requirement sets

A requirement set is shown tests that passed, one by one or in the outcomes of a report, and it is
asked which tests it holds and which of them are still missing. Every operation has a reply. A report
that cannot be read has no outcomes, so all that it brings is what is wrong with it.

## Main definitions

* `RequirementSet.Operation`, `RequirementSet.Reply`: What is done with a set, and what it replies.
* `RequirementSet.perform`, `RequirementSet.performAll`: A set after an operation, and after several
  in a row, with the replies.
-/

namespace Assay.RequirementSet

/-- What is done with a requirement set. -/
inductive Operation
  /-- A test is satisfied, if it is required. -/
  | mark (name : String)
  | contains (name : String)
  | size
  | missing
  /-- The set is reconciled with the outcomes of a report, where the report has any. -/
  | reconcile (outcomes : Except Finding (List Outcome))

/-- What a requirement set replies. -/
inductive Reply
  | truth (value : Bool)
  | number (value : Nat)
  | names (value : List String)
  | finding (value : Finding)

/-- The reply to an operation, and the set after it. -/
def perform (r : RequirementSet) : Operation → Reply × RequirementSet
  | .mark name => (.truth (r.contains name), r.mark name)
  | .contains name => (.truth (r.contains name), r)
  | .size => (.number r.size, r)
  | .missing => (.names r.missing, r)
  | .reconcile (.ok outcomes) =>
    (.names (r.reconcile outcomes).missing, r.reconcile outcomes)
  | .reconcile (.error f) => (.finding f, r)

/-- The replies to operations in a row, and the set after them. -/
def performAll : RequirementSet → List Operation → List Reply × RequirementSet
  | r, [] => ([], r)
  | r, op :: rest =>
    let (reply, next) := r.perform op
    let (replies, last) := performAll next rest
    (reply :: replies, last)

end Assay.RequirementSet
