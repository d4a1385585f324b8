import Attestation.Azure.Payload
import Attestation.Azure.Policy
import Attestation.Azure.Verification
import Attestation.Base64
import Attestation.Binary64
import Attestation.Bytes
import Attestation.Calendar
import Attestation.Cbor.Item
import Attestation.Cbor.Writer
import Attestation.Certificate.Armor
import Attestation.Certificate.Basic
import Attestation.Certificate.IssuerKey
import Attestation.Certificate.Name
import Attestation.ConfidentialSpace.EnvironmentPolicy
import Attestation.ConfidentialSpace.Payload
import Attestation.ConfidentialSpace.Policy
import Attestation.ConfidentialSpace.Scope
import Attestation.ConfidentialSpace.Verification
import Attestation.Configuration
import Attestation.Der
import Attestation.Der.ObjectId
import Attestation.Der.ObjectId.Arc
import Attestation.Der.ObjectId.Directory
import Attestation.Der.ObjectId.Name
import Attestation.Der.ObjectId.Security
import Attestation.Der.ObjectId.Services
import Attestation.Digest.Sha2
import Attestation.Ecdsa.Curve
import Attestation.Ecdsa.P384
import Attestation.Ecdsa.Signature
import Attestation.EnclaveClaims
import Attestation.EnclaveId
import Attestation.Engine
import Attestation.Instant
import Attestation.Json.Basic
import Attestation.Json.Reader
import Attestation.Json.Record
import Attestation.Json.Writer
import Attestation.Jwt.Algorithm
import Attestation.Jwt.Authenticity
import Attestation.Jwt.Evidence
import Attestation.Jwt.Fault
import Attestation.Jwt.Header
import Attestation.Jwt.Identity
import Attestation.Jwt.Jwk
import Attestation.Jwt.Lifetime
import Attestation.Jwt.Verification
import Attestation.Jwt.VerificationKey
import Attestation.KeyCache
import Attestation.KeySet
import Attestation.LogEvent
import Attestation.Modular
import Attestation.Nitro.Audit
import Attestation.Nitro.Document
import Attestation.Nitro.Envelope
import Attestation.Nitro.Policy
import Attestation.Nitro.Root
import Attestation.Nitro.Verification
import Attestation.Platform
import Attestation.Rsa
import Attestation.Table
import Attestation.Text.Blank
import Attestation.Text.CaseTables
import Attestation.Text.CharSet
import Attestation.Text.LowerCase
import Attestation.Text.Quoted
import Attestation.Text.Unprintable
import Attestation.Text.Utf8
import Attestation.TrustStore
import Attestation.VerificationError
import Attestation.Proofs.Azure.Stated
import Attestation.Proofs.Base64.RoundTrip
import Attestation.Proofs.Checks
import Attestation.Proofs.TrustStore.Path
import Attestation.Proofs.Json.Fields
import Attestation.Proofs.Json.Members
import Attestation.Proofs.Json.Objects
import Attestation.Proofs.Jwt.Identity
import Attestation.Proofs.KeyCache.Freshness
import Attestation.Proofs.Jwt.Verification
import Attestation.Proofs.Engine.Tokens
import Attestation.Proofs.Nitro.Identifier
import Attestation.Proofs.Nitro.Soundness
import Attestation.Proofs.KeyCache.Transparency
import Attestation.Proofs.KeyCache.Requests
import Attestation.Proofs.KeyCache.Interleaving
import Attestation.Proofs.Engine.Stages
import Attestation.Proofs.Engine.SharedCache
import Attestation.Proofs.Engine.Unauthentic
import Attestation.Proofs.Engine.Budget
import Attestation.Proofs.Engine.Refusals
import Attestation.Proofs.Cbor.Strings
import Attestation.Proofs.Nitro.SignedMessage
import Attestation.Proofs.Der.RoundTrip
import Attestation.Proofs.Ecdsa.Reencoding
import Attestation.Proofs.Nitro.Decoding
import Attestation.Proofs.Azure.Endpoint
import Attestation.Proofs.Engine.Isolation
import Attestation.Proofs.Text.Case
import Attestation.Proofs.Text.Utf8
import Attestation.Proofs.TrustStore.Completeness
import Attestation.Proofs.Azure.Regions
import Attestation.Proofs.EnclaveId
import Attestation.Proofs.ConfidentialSpace.Acceptance
import Attestation.Proofs.ConfidentialSpace.Identifier
import Attestation.Proofs.TrustStore.Truncation
import Attestation.Proofs.KeyCache.Changes
import Attestation.Proofs.KeySet.Families
import Attestation.Proofs.ConfidentialSpace.Stated
import Attestation.Proofs.KeySet.Contents
import Attestation.Proofs.Nitro.Validity
import Attestation.Proofs.Jwt.Lifetime
import Attestation.Proofs.Text.Blank
import Attestation.Proofs.Jwt.Segments
import Attestation.Proofs.Cbor.Extent
import Attestation.Proofs.Cbor.Items
import Attestation.Proofs.Nitro.WireForms
import Attestation.Proofs.Configuration
import Attestation.Proofs.Log.Journal
import Attestation.Proofs.Log.Lines
import Attestation.Proofs.Calendar.Days
import Attestation.Proofs.Calendar.Text
import Attestation.Proofs.Nitro.Audit
