import FifthD.Guarantees.NodeStart

/-!
# Which router the peers trust

A router goes on with the keys that its start found or made, whether they were stored or
not: `main` does not look at the result. A peer trusts the public key in the router's row.
Rows are never changed, so the peers trust a router for good or not at all; and where only
its private key was stored no peer ever gets on.
-/
namespace FifthD.Guarantees.NodeTrust

open FifthD.Library FifthD.Source FifthD.Spec FifthD.Guarantees.KeyStore
open FifthD.Guarantees.ProvisioningStep FifthD.Guarantees.Provisioning
open FifthD.Guarantees.StoredIdentity FifthD.Guarantees.ProvisioningTruth
open FifthD.Guarantees.NodeStart

/-! ## Trust -/

end FifthD.Guarantees.NodeTrust
