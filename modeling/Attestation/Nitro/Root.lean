import Attestation.Certificate.Armor
import Attestation.Certificate.Basic

/-!
The certificate that the chains of Nitro enclaves end in.
-/
namespace Attestation.Nitro

def rootLines : List String :=
  ["-----BEGIN CERTIFICATE-----",
    "MIICETCCAZagAwIBAgIRAPkxdWgbkK/hHUbMtOTn+FYwCgYIKoZIzj0EAwMwSTEL",
    "MAkGA1UEBhMCVVMxDzANBgNVBAoMBkFtYXpvbjEMMAoGA1UECwwDQVdTMRswGQYD",
    "VQQDDBJhd3Mubml0cm8tZW5jbGF2ZXMwHhcNMTkxMDI4MTMyODA1WhcNNDkxMDI4",
    "MTQyODA1WjBJMQswCQYDVQQGEwJVUzEPMA0GA1UECgwGQW1hem9uMQwwCgYDVQQL",
    "DANBV1MxGzAZBgNVBAMMEmF3cy5uaXRyby1lbmNsYXZlczB2MBAGByqGSM49AgEG",
    "BSuBBAAiA2IABPwCVOumCMHzaHDimtqQvkY4MpJzbolL//Zy2YlES1BR5TSksfbb",
    "48C8WBoyt7F2Bw7eEtaaP+ohG2bnUs990d0JX28TcPQXCEPZ3BABIeTPYwEoCWZE",
    "h8l5YoQwTcU/9KNCMEAwDwYDVR0TAQH/BAUwAwEB/zAdBgNVHQ4EFgQUkCW1DdkF",
    "R+eWw5b6cp3PmanfS5YwDgYDVR0PAQH/BAQDAgGGMAoGCCqGSM49BAMDA2kAMGYC",
    "MQCjfy+Rocm9Xue4YnwWmNJVA44fA0P5W2OpYow9OYCVRaEevL8uO1XYru5xtMPW",
    "rfMCMQCi85sWBbJwKKXdS6BptQFuZbT73o/gBh1qUxl/nNr12UO8Yfwr6wPLb+6N",
    "IwLz3/Y=",
    "-----END CERTIFICATE-----"]

/-- The root certificate in text form, each line ended. -/
def rootCertificate : String := String.join (rootLines.map (· ++ "\n"))

inductive RootError where
  | armor (cause : Certificate.Armor.Error)
  | certificate (cause : Certificate.Error)
  deriving DecidableEq, Repr

def RootError.message : RootError → String
  | armor cause => "invalid Nitro root: " ++ cause.message
  | certificate cause => "invalid Nitro root: " ++ cause.message

/-- Reads a root certificate in text form. -/
def readRoot (text : String) : Except RootError Certificate := do
  let der ← (Certificate.Armor.decode text).mapError .armor
  (Certificate.read der).mapError .certificate

end Attestation.Nitro
