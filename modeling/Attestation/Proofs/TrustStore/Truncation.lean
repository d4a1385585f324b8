import Attestation.Proofs.TrustStore.Completeness

/-!
Chains that are cut off at their leaf. A walk starts at the far end and learns nothing from what is
still ahead of it, so the rest of an accepted chain is accepted by itself, with the certificate where
it was cut as its leaf. Where the rest is refused, so is every chain that it is the rest of.
-/
namespace Attestation.TrustStore

open Checks Certificate

variable {store : TrustStore} {c : Certificate} {nearer above : List Certificate}

theorem rooted_of_append (h : store.Rooted (nearer ++ above)) : store.Rooted above := by
  induction nearer with
  | nil => exact h
  | cons d nearer ih => exact ih h.2

theorem allValidAt_append (now : Instant) :
    allValidAt (nearer ++ above) now = (allValidAt nearer now && allValidAt above now) := by
  simp [allValidAt]

/-- A walk that fails has failed before it comes to certificates that are put behind its leaf. -/
theorem walk_append_of_error {known : Table String Identity} {walked further : List Certificate}
    {e : Error} (hwalked : walked ≠ []) (h : store.walk known walked = .error e) :
    store.walk known (walked ++ further) = .error e := by
  cases further with
  | nil => rwa [List.append_nil]
  | cons d further =>
    induction walked generalizing known with
    | nil => exact absurd rfl hwalked
    | cons c walked ih =>
      cases walked with
      | nil =>
        rw [walk] at h
        simp only [List.singleton_append, walk, h, error_bind]
      | cons b walked =>
        simp only [walk, bind_eq_error] at h
        simp only [List.cons_append, walk, bind_eq_error]
        -- One of the two checks of the first certificate failed, or what comes after it did.
        rcases h with h | ⟨identity, hidentity, h | ⟨_, hauthority, h⟩⟩
        · exact .inl h
        · exact .inr ⟨identity, hidentity, .inl h⟩
        · exact .inr ⟨identity, hidentity, .inr ⟨_, hauthority, ih (by simp) h⟩⟩

theorem verifyLeaf_eq_ite {chain : List Certificate} (hchain : chain ≠ []) :
    store.verifyLeaf chain = if allValidAt chain store.now then
      store.walk Table.empty chain.reverse else .error .chainNotValid := by
  rw [verifyLeaf, if_neg (by simpa using hchain)]

theorem verifyLeaf_rest {id : Identity} (h : store.verifyLeaf (nearer ++ c :: above) = .ok id) :
    ∃ key, IssuerKey.ofCertificate c = .ok key ∧ store.verifyLeaf (c :: above) = .ok ⟨c, key⟩ := by
  obtain ⟨hvalid, hrooted, hauthority, _⟩ := verifyLeaf_eq_ok.1 h
  have hrest : store.Rooted (c :: above) := rooted_of_append hrooted
  obtain ⟨_, identity, hidentity⟩ := hrest.1
  obtain ⟨rfl, hkey⟩ := decodeKey_eq_ok.1 hidentity
  refine ⟨identity.key, hkey, verifyLeaf_eq_ok.2
    ⟨fun d hd => hvalid d (List.mem_append_right nearer hd), hrest, ?_, rfl, hkey⟩⟩
  -- What stands above the new leaf stood above the old one.
  intro d hd
  refine hauthority d ?_
  cases nearer with
  | nil => exact hd
  | cons leaf nearer => exact List.mem_append_right nearer (List.mem_cons_of_mem _ hd)

theorem verifyLeaf_append_of_error {e : Error} (h : store.verifyLeaf (c :: above) = .error e) :
    store.verifyLeaf (nearer ++ c :: above) =
      .error (if allValidAt nearer store.now then e else .chainNotValid) := by
  rw [verifyLeaf_eq_ite (List.cons_ne_nil c above)] at h
  rw [verifyLeaf_eq_ite (by simp), allValidAt_append, List.reverse_append]
  cases hnearer : allValidAt nearer store.now with
  | false => rw [Bool.false_and, if_neg Bool.false_ne_true, if_neg Bool.false_ne_true]
  | true =>
    rw [Bool.true_and, if_pos rfl]
    cases habove : allValidAt (c :: above) store.now with
    | false =>
      rw [habove] at h
      exact h
    | true =>
      rw [habove, if_pos rfl] at h
      exact walk_append_of_error (by simp) h

/-- The rest of a chain decides for itself. If the chain is accepted, then the rest is, and hands out
the key of its own first certificate; if the rest is refused, then the chain is, with the same error
unless a certificate nearer to the leaf is not valid. -/
theorem verifyLeaf_truncated (store : TrustStore) (nearer : List Certificate) (c : Certificate)
    (above : List Certificate) :
    (∀ id, store.verifyLeaf (nearer ++ c :: above) = .ok id →
      ∃ key, IssuerKey.ofCertificate c = .ok key ∧
        store.verifyLeaf (c :: above) = .ok ⟨c, key⟩) ∧
    ∀ e, store.verifyLeaf (c :: above) = .error e →
      store.verifyLeaf (nearer ++ c :: above) =
        .error (if allValidAt nearer store.now then e else .chainNotValid) :=
  ⟨fun _ h => verifyLeaf_rest h, fun _ h => verifyLeaf_append_of_error h⟩

set_option maxRecDepth 100000 in
/-- Of three certificates the upper two are accepted without the leaf. The one in the middle by
itself has no known issuer, and with the leaf it has none either. -/
theorem verifyLeaf_truncated_renewed : ∃ store id,
    ofRoots 1700000000000000000 [specimenRoot] = .ok store ∧
      store.verifyLeaf [renewedLeaf, renewedIssuer, specimenIssuer] = .ok id ∧
      (∃ key, IssuerKey.ofCertificate renewedIssuer = .ok key ∧
        store.verifyLeaf [renewedIssuer, specimenIssuer] = .ok ⟨renewedIssuer, key⟩) ∧
      ∃ e, store.verifyLeaf [renewedIssuer] = .error e ∧
        store.verifyLeaf [renewedLeaf, renewedIssuer] =
          .error (if allValidAt [renewedLeaf] store.now then e else .chainNotValid) := by
  have haccepted : (ofRoots 1700000000000000000 [specimenRoot] >>=
      (·.verifyLeaf [renewedLeaf, renewedIssuer, specimenIssuer])).isOk = true := by decide +kernel
  have hrefused : (ofRoots 1700000000000000000 [specimenRoot] >>=
      (·.verifyLeaf [renewedIssuer])).isOk = false := by decide +kernel
  obtain ⟨id, hid⟩ := isOk_iff.1 haccepted
  obtain ⟨store, hstore, hleaf⟩ := bind_eq_ok.1 hid
  refine ⟨store, id, hstore, hleaf,
    (verifyLeaf_truncated store [renewedLeaf] renewedIssuer [specimenIssuer]).1 id hleaf, ?_⟩
  cases halone : store.verifyLeaf [renewedIssuer] with
  | ok found =>
    rw [isOk_iff.2 ⟨found, bind_eq_ok.2 ⟨store, hstore, halone⟩⟩] at hrefused
    cases hrefused
  | error e =>
    exact ⟨e, rfl, (verifyLeaf_truncated store [renewedLeaf] renewedIssuer []).2 e halone⟩

end Attestation.TrustStore
