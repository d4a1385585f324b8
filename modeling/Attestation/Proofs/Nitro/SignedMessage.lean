import Attestation.Nitro.Envelope
import Attestation.Proofs.Cbor.Strings
import Attestation.Proofs.Nitro.Identifier

/-!
The bytes under the signature of an envelope. They tell the protected header and the payload apart,
so that a signature says nothing about another header or payload, however the two are cut.
-/
namespace Attestation.Nitro.Envelope

open Cbor

/-- Header and payload are short enough for their length to be written. -/
def Sized (e : Envelope) : Prop :=
  e.protectedHeader.length < integerLimit ∧ e.payload.length < integerLimit

instance (e : Envelope) : Decidable e.Sized := inferInstanceAs (Decidable (_ ∧ _))

/-- What the bytes under the signature are, and that no other header and payload have the same. -/
structure Unambiguous (e : Envelope) : Prop where
  written : ∃ header payload, Written e.protectedHeader header ∧ Written e.payload payload ∧
    e.signedMessage =
      [0x84, 0x6a] ++ Utf8.encode "Signature1" ++ (header ++ ([0x40] ++ payload))
  unique : ∀ e' : Envelope, e'.Sized → e.signedMessage = e'.signedMessage →
    e.protectedHeader = e'.protectedHeader ∧ e.payload = e'.payload

theorem signedMessage_append (e : Envelope) :
    e.signedMessage = [0x84, 0x6a] ++ Utf8.encode "Signature1" ++
      (writeBytes e.protectedHeader ++ ([0x40] ++ writeBytes e.payload)) := by
  have hcontext : writeText signatureContext = [0x6a] ++ Utf8.encode "Signature1" := by decide
  have hempty : writeBytes [] = [0x40] := by decide
  have hfour : writeHead 4 4 = [0x84] := by decide
  simp only [signedMessage, writeArray, hcontext, hempty, List.length_cons, List.length_nil,
    Nat.zero_add, Nat.reduceAdd, hfour, List.flatten_cons, List.flatten_nil, List.append_nil,
    List.cons_append, List.nil_append]

theorem signedMessage_inj {e e' : Envelope} (h : e.Sized) (h' : e'.Sized)
    (hsame : e.signedMessage = e'.signedMessage) :
    e.protectedHeader = e'.protectedHeader ∧ e.payload = e'.payload := by
  rw [signedMessage_append, signedMessage_append] at hsame
  obtain ⟨hheader, hbehind⟩ := writeBytes_append_inj h.1 h'.1 (List.append_cancel_left hsame)
  have hpayload := List.append_cancel_left hbehind
  rw [← List.append_nil (writeBytes e.payload), ← List.append_nil (writeBytes e'.payload)]
    at hpayload
  exact ⟨hheader, (writeBytes_append_inj h.2 h'.2 hpayload).1⟩

theorem signedMessage_unambiguous {e : Envelope} (h : e.Sized) : e.Unambiguous where
  written := ⟨_, _, written_writeBytes h.1, written_writeBytes h.2, signedMessage_append e⟩
  unique _ h' := signedMessage_inj h h'

/-- An envelope around bytes that look like a string themselves. -/
def nested (header payload : Bytes) : Envelope where
  protectedHeader := header
  payload := payload
  signature := []
  document := plainDocument []

/-- Moving the end of the header into the payload gives another message. -/
theorem signedMessage_unambiguous_nested :
    (nested [0x41, 0x40] (writeBytes (ones 24))).Sized ∧
      (nested [0x41, 0x40] (writeBytes (ones 24))).Unambiguous ∧
      (nested [0x41, 0x40] (writeBytes (ones 24))).signedMessage ≠
        (nested [0x41] (0x40 :: writeBytes (ones 24))).signedMessage := by
  have hsized : (nested [0x41, 0x40] (writeBytes (ones 24))).Sized := by decide
  have hunambiguous := signedMessage_unambiguous hsized
  refine ⟨hsized, hunambiguous, ?_⟩
  intro hsame
  obtain ⟨hheader, _⟩ := hunambiguous.unique _ (by decide) hsame
  exact absurd hheader (by decide)

end Attestation.Nitro.Envelope
