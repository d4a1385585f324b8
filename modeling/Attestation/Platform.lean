/-!
The platforms whose evidence can be verified.
-/
namespace Attestation

inductive Platform where
  | nitro
  | azure
  | gcp
  deriving DecidableEq, Repr

namespace Platform

def name : Platform → String
  | nitro => "nitro"
  | azure => "azure"
  | gcp => "gcp"

def ofName? (text : String) : Option Platform := [nitro, azure, gcp].find? (·.name == text)

end Platform

end Attestation
