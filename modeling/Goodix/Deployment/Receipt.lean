import Goodix.Library.Values

/-! # Receipts

A receipt of the runtime says from which sources it was built; what earlier installers wrote is
read as well.
-/

namespace Goodix.Deployment

open Decimals Values

/-- `receipt_identity`: the identity of the sources, or the message of the check that failed. -/
def receiptIdentity (receipt : Value) : Except String Text :=
  if receipt.isDict = false then .error "invalid project receipt"
  else if (receipt.get "schema").equals (.int 2) then
    match receipt.get "source_id" with
    | .string identity =>
      if isHexOf 64 identity then .ok identity else .error "invalid source identity"
    | _ => .error "invalid source identity"
  else if (receipt.get "schema").equals (.int 1) = false then .error "unsupported project receipt"
  else
    match (receipt.field? "source_commit").getD (receipt.get "build_commit") with
    | .string identity =>
      if isHexOf 40 identity then .ok (text "git:" ++ identity)
      else .error "invalid legacy source identity"
    | _ => .error "invalid legacy source identity"

end Goodix.Deployment
