import Attestation.Der.ObjectId.Arc

/-!
The registered names of security: algorithms, curves, extensions of certificates, and the messages
and attributes of their management.
-/
namespace Attestation.ObjectId

/-- The arcs of algorithms, certificates and signed messages. -/
def securityArcs : List Arc :=
  [⟨[1, 2, 840], [(113549, ["rsadsi"])]⟩,
    ⟨[1, 2, 840, 10040, 4], [(1, ["id-dsa"]), (3, ["dsa-with-sha1"])]⟩,
    ⟨[1, 2, 840, 10045, 2], [(1, ["id-ecPublicKey"])]⟩,
    ⟨[1, 2, 840, 10045, 3, 1], [(7, ["secp256r1"])]⟩,
    ⟨[1, 2, 840, 10045, 4, 3],
      [(1, ["ecdsa-with-SHA224", "ecdsa-with-SHA256", "ecdsa-with-SHA384", "ecdsa-with-SHA512"])]⟩,
    ⟨[1, 2, 840, 10046, 2], [(1, ["dhpublicnumber"])]⟩,
    ⟨[1, 2, 840, 113533, 7, 66], [(13, ["id-PasswordBasedMac"]), (30, ["id-DHBasedMac"])]⟩,
    ⟨[1, 2, 840, 113549], [(2, ["digestAlgorithm"])]⟩,
    ⟨[1, 2, 840, 113549, 1], [(1, ["pkcs-1"]), (9, ["pkcs-9"])]⟩,
    ⟨[1, 2, 840, 113549, 1, 1],
      [(1, ["rsaEncryption", "md2WithRSAEncryption"]),
       (4, ["md5WithRSAEncryption", "sha1WithRSAEncryption"]),
       (7, ["id-RSAES-OAEP", "id-mgf1", "id-pSpecified", "id-RSASSA-PSS",
         "sha256WithRSAEncryption", "sha384WithRSAEncryption", "sha512WithRSAEncryption",
         "sha224WithRSAEncryption"])]⟩,
    ⟨[1, 2, 840, 113549, 1, 5], [(12, ["id-PBKDF2"])]⟩,
    ⟨[1, 2, 840, 113549, 1, 7],
      [(1, ["id-data", "id-signedData", "id-envelopedData"]),
       (5, ["id-digestedData", "id-encryptedData"])]⟩,
    ⟨[1, 2, 840, 113549, 1, 9],
      [(1, ["email"]),
       (3, ["id-contentType", "id-messageDigest", "id-signingTime", "id-countersignature"]),
       (14, ["id-ExtensionReq", "smimeCapabilities", "id-smime"])]⟩,
    ⟨[1, 2, 840, 113549, 1, 9, 2], [(51, ["id-aa-multipleSignatures"])]⟩,
    ⟨[1, 2, 840, 113549, 1, 9, 16],
      [(0, ["id-mod", "id-ct", "id-aa", "id-alg", "id-cd", "id-spq", "id-cti", "id-tsp", "id-skd",
         "id-sti", "id-eit", "id-cap", "id-pskc"])]⟩,
    ⟨[1, 2, 840, 113549, 1, 9, 16, 1],
      [(1, ["id-ct-receipt", "id-ct-authData"]),
       (6, ["id-ct-contentInfo"]),
       (9, ["id-ct-compressedData", "id-ct-scvp-certValRequest", "id-ct-scvp-certValResponse",
         "id-ct-scvp-valPolRequest", "id-ct-scvp-valPolResponse"]),
       (16, ["id-ct-firmwarePackage", "id-ct-firmwareLoadReceipt", "id-ct-firmwareLoadError",
         "id-ct-contentCollection", "id-ct-contentWithAttrs", "id-ct-encKeyWithID"]),
       (23, ["id-ct-authEnvelopedData"])]⟩,
    ⟨[1, 2, 840, 113549, 1, 9, 16, 2],
      [(1, ["id-aa-receiptRequest", "id-aa-securityLabel", "id-aa-mlExpandHistory",
         "id-aa-contentHint", "id-aa-msgSigDigest"]),
       (7, ["id-aa-contentIdentifier"]),
       (9, ["id-aa-equivalentLabels", "id-aa-contentReference", "id-aa-encrypKeyPref",
         "id-aa-signingCertificate"]),
       (34, ["id-aa-cmc-unsignedData", "id-aa-firmwarePackageID", "id-aa-targetHardwareIDs",
         "id-aa-decryptKeyID", "id-aa-implCryptoAlgs", "id-aa-wrappedFirmwareKey",
         "id-aa-communityIdentifiers"]),
       (42, ["id-aa-firmwarePackageInfo", "id-aa-implCompressAlgs"]),
       (46, ["id-aa-binarySigningTime", "id-aa-signingCertificateV2"]),
       (49, ["id-aa-er-internal", "id-aa-er-external"])]⟩,
    ⟨[1, 2, 840, 113549, 1, 9, 16, 3],
      [(5, ["id-alg-ESDH", "id-alg-CMS3DESwrap", "id-alg-CMSRC2wrap", "id-alg-zlibCompress"]),
       (10, ["id-alg-SSDH"])]⟩,
    ⟨[1, 2, 840, 113549, 1, 9, 16, 8],
      [(1, ["id-skd-glUseKEK", "id-skd-glDelete", "id-skd-glAddMember", "id-skd-glDeleteMember",
         "id-skd-glRekey", "id-skd-glAddOwner", "id-skd-glRemoveOwner", "id-skd-glKeyCompromise",
         "id-skd-glkRefresh"]),
       (11, ["id-skd-glaQueryRequest", "id-skd-glaQueryResponse", "id-skd-glProvideCert",
         "id-skd-glManageCert", "id-skd-glKey"])]⟩,
    ⟨[1, 2, 840, 113549, 1, 9, 16, 11], [(1, ["id-cap-preferBinaryInside"])]⟩,
    ⟨[1, 2, 840, 113549, 2],
      [(2, ["id-md2"]),
       (5, ["id-md5"]),
       (8, ["id-hmacWithSHA224", "id-hmacWithSHA256", "id-hmacWithSHA384", "id-hmacWithSHA512"])]⟩,
    ⟨[1, 2, 840, 113549, 3], [(2, ["rc2-cbc"]), (7, ["des-ede3-cbc"])]⟩,
    ⟨[1, 3, 6, 1, 4, 1], [(11129, ["google"])]⟩,
    ⟨[1, 3, 6, 1, 4, 1, 11129, 2, 4],
      [(2, ["ct-precert-scts", "ct-precert-poison", "ct-precert-signing-cert"])]⟩,
    ⟨[1, 3, 6, 1, 5, 5], [(7, ["id-pkix"]), (11, ["ltans"])]⟩,
    ⟨[1, 3, 6, 1, 5, 5, 7],
      [(0, ["id-mod", "id-pe", "id-qt", "id-kp", "id-it", "id-pkip", "id-alg", "id-cmc", "id-on",
         "id-pda", "id-aca", "id-qcs", "id-cct", "id-TEST", "id-cp", "id-cet", "id-ri", "id-stc",
         "id-swb", "id-svp", "id-logo", "id-ppl", "id-mr", "id-skis"]),
       (48, ["id-ad"])]⟩,
    ⟨[1, 3, 6, 1, 5, 5, 7, 1],
      [(1, ["id-pe-authorityInfoAccess"]),
       (4, ["id-pe-ac-auditIdentity"]),
       (6, ["id-pe-aaControls"]),
       (10, ["id-pe-ac-proxying", "id-pe-subjectInfoAccess"])]⟩,
    ⟨[1, 3, 6, 1, 5, 5, 7, 2], [(1, ["id-qt-cps", "id-qt-unotice"])]⟩,
    ⟨[1, 3, 6, 1, 5, 5, 7, 3],
      [(1, ["id-kp-serverAuth", "id-kp-clientAuth", "id-kp-codeSigning",
         "id-kp-emailProtection"]),
       (8, ["id-kp-timeStamping", "id-kp-OCSPSigning"]),
       (15, ["id-kp-scvpServer", "id-kp-scvpClient"])]⟩,
    ⟨[1, 3, 6, 1, 5, 5, 7, 4],
      [(1, ["id-it-caProtEncCert", "id-it-signKeyPairTypes", "id-it-encKeyPairTypes",
         "id-it-preferredSymmAlg", "id-it-caKeyUpdateInfo", "id-it-currentCRL",
         "id-it-unsupportedOIDs"]),
       (10, ["id-it-keyPairParamReq", "id-it-keyPairParamRep", "id-it-revPassphrase",
         "id-it-implicitConfirm", "id-it-confirmWaitTime", "id-it-origPKIMessage",
         "id-it-suppLangTags"])]⟩,
    ⟨[1, 3, 6, 1, 5, 5, 7, 5], [(1, ["id-regCtrl", "id-regInfo"])]⟩,
    ⟨[1, 3, 6, 1, 5, 5, 7, 5, 1],
      [(1, ["id-regCtrl-regToken", "id-regCtrl-authenticator", "id-regCtrl-pkiPublicationInfo",
         "id-regCtrl-pkiArchiveOptions", "id-regCtrl-oldCertID", "id-regCtrl-protocolEncrKey"])]⟩,
    ⟨[1, 3, 6, 1, 5, 5, 7, 5, 2], [(1, ["id-regInfo-utf8Pairs", "id-regInfo-certReq"])]⟩,
    ⟨[1, 3, 6, 1, 5, 5, 7, 6], [(2, ["id-alg-noSignature"])]⟩,
    ⟨[1, 3, 6, 1, 5, 5, 7, 7],
      [(1, ["id-cmc-statusInfo", "id-cmc-identification", "id-cmc-identityProof",
         "id-cmc-dataReturn", "id-cmc-transactionId", "id-cmc-senderNonce",
         "id-cmc-recipientNonce", "id-cmc-addExtensions", "id-cmc-encryptedPOP",
         "id-cmc-decryptedPOP", "id-cmc-lraPOPWitness"]),
       (15, ["id-cmc-getCert", "id-cmc-getCRL", "id-cmc-revokeRequest", "id-cmc-regInfo",
         "id-cmc-responseInfo"]),
       (21, ["id-cmc-queryPending", "id-cmc-popLinkRandom", "id-cmc-popLinkWitness",
         "id-cmc-confirmCertAcceptance", "id-cmc-statusInfoV2", "id-cmc-trustedAnchors",
         "id-cmc-authData", "id-cmc-batchRequests", "id-cmc-batchResponses", "id-cmc-publishCert",
         "id-cmc-modCertTemplate", "id-cmc-controlProcessed", "id-cmc-identityProofV2",
         "id-cmc-popLinkWitnessV2"]),
       (99, ["id-cmc-glaRR"])]⟩,
    ⟨[1, 3, 6, 1, 5, 5, 7, 7, 99],
      [(1, ["id-cmc-gla-skdAlgRequest", "id-cmc-gla-skdAlgResponse"])]⟩,
    ⟨[1, 3, 6, 1, 5, 5, 7, 8], [(4, ["id-on-hardwareModuleName"])]⟩,
    ⟨[1, 3, 6, 1, 5, 5, 7, 10],
      [(1, ["id-aca-authenticationInfo", "id-aca-accessIdentity", "id-aca-chargingIdentity",
         "id-aca-group"]),
       (6, ["id-aca-encAttrs"])]⟩,
    ⟨[1, 3, 6, 1, 5, 5, 7, 12], [(2, ["id-cct-PKIData", "id-cct-PKIResponse"])]⟩,
    ⟨[1, 3, 6, 1, 5, 5, 7, 15], [(1, ["id-cet-skdFailInfo"])]⟩,
    ⟨[1, 3, 6, 1, 5, 5, 7, 17],
      [(1, ["id-stc-build-pkc-path", "id-stc-build-valid-pkc-path",
         "id-stc-build-status-checked-pkc-path", "id-stc-build-aa-path",
         "id-stc-build-valid-aa-path", "id-stc-build-status-checked-aa-path",
         "id-stc-status-check-ac-and-build-status-checked-aa-path"])]⟩,
    ⟨[1, 3, 6, 1, 5, 5, 7, 18],
      [(1, ["id-swb-pkc-best-cert-path", "id-swb-pkc-revocation-info"]),
       (4, ["id-swb-pkc-public-key-info", "id-swb-aa-cert-path", "id-swb-aa-revocation-info",
         "id-swb-ac-revocation-info"]),
       (9, ["id-swb-relayed-responses", "id-swb-pkc-cert", "id-swb-ac-cert",
         "id-swb-pkc-all-cert-paths", "id-swb-pkc-ee-revocation-info",
         "id-swb-pkc-CAs-revocation-info"])]⟩,
    ⟨[1, 3, 6, 1, 5, 5, 7, 19],
      [(1, ["id-svp-defaultValPolicy", "id-nvae", "id-bvae", "id-dnvae"])]⟩,
    ⟨[1, 3, 6, 1, 5, 5, 7, 48],
      [(1, ["id-ad-ocsp", "id-ad-caIssuers", "id-ad-timeStamping"]),
       (5, ["id-ad-caRepository"])]⟩,
    ⟨[1, 3, 6, 1, 5, 5, 7, 48, 1],
      [(1, ["id-pkix-ocsp-basic", "id-pkix-ocsp-nonce", "id-pkix-ocsp-crl",
         "id-pkix-ocsp-response", "id-pkix-ocsp-nocheck", "id-pkix-ocsp-archive-cutoff",
         "id-pkix-ocsp-service-locator", "id-pkix-ocsp-pref-sig-algs",
         "id-pkix-ocsp-extended-revoke"])]⟩,
    ⟨[1, 3, 6, 1, 5, 5, 8, 1], [(2, ["hMAC-SHA1"])]⟩,
    ⟨[1, 3, 14, 3, 2], [(26, ["id-sha1"])]⟩,
    ⟨[1, 3, 101], [(110, ["id-X25519", "id-X448", "id-Ed25519", "id-Ed448"])]⟩,
    ⟨[1, 3, 132, 0],
      [(1, ["sect163k1"]),
       (15, ["sect163r2", "sect283k1", "sect283r1"]),
       (26, ["sect233k1", "sect233r1"]),
       (33, ["secp224r1", "secp384r1", "secp521r1", "sect409k1", "sect409r1", "sect571k1",
         "sect571r1"])]⟩,
    ⟨[1, 3, 132, 1], [(12, ["id-ecDH", "id-ecMQV"])]⟩,
    ⟨[2, 2, 840, 10040], [(2, ["holdInstruction"])]⟩,
    ⟨[2, 2, 840, 10040, 2],
      [(1, ["id-holdinstruction-none", "id-holdinstruction-callissuer",
         "id-holdinstruction-reject"])]⟩,
    ⟨[2, 5, 29],
      [(9, ["id-ce-subjectDirectoryAttributes"]),
       (14, ["id-ce-subjectKeyIdentifier", "id-ce-keyUsage", "id-ce-privateKeyUsagePeriod",
         "id-ce-subjectAltName", "id-ce-issuerAltName", "id-ce-basicConstraints",
         "id-ce-cRLNumber", "id-ce-cRLReasons"]),
       (23, ["id-ce-holdInstructionCode", "id-ce-invalidityDate"]),
       (27, ["id-ce-deltaCRLIndicator", "id-ce-issuingDistributionPoint",
         "id-ce-certificateIssuer", "id-ce-nameConstraints", "id-ce-cRLDistributionPoints",
         "id-ce-certificatePolicies", "id-ce-policyMappings"]),
       (35, ["id-ce-authorityKeyIdentifier", "id-ce-policyConstraints", "id-ce-extKeyUsage"]),
       (46, ["id-ce-freshestCRL"]),
       (54, ["id-ce-inhibitAnyPolicy", "id-ce-targetInformation", "id-ce-noRevAvail"])]⟩,
    ⟨[2, 5, 29, 32], [(0, ["anyPolicy"])]⟩,
    ⟨[2, 5, 29, 37], [(0, ["anyExtendedKeyUsage"])]⟩,
    ⟨[2, 16, 840, 1], [(113733, ["id-VeriSign"])]⟩,
    ⟨[2, 16, 840, 1, 101, 2, 1, 1], [(22, ["id-keyExchangeAlgorithm"])]⟩,
    ⟨[2, 16, 840, 1, 101, 3, 4], [(1, ["aes"])]⟩,
    ⟨[2, 16, 840, 1, 101, 3, 4, 1],
      [(2, ["id-aes128-CBC"]),
       (5, ["id-aes128-wrap", "id-aes128-GCM", "id-aes128-CCM"]),
       (22, ["id-aes192-CBC"]),
       (25, ["id-aes192-wrap", "id-aes192-GCM", "id-aes192-CCM"]),
       (42, ["id-aes256-CBC"]),
       (45, ["id-aes256-wrap", "id-aes256-GCM", "id-aes256-CCM"])]⟩,
    ⟨[2, 16, 840, 1, 101, 3, 4, 2], [(1, ["id-sha256", "id-sha384", "id-sha512", "id-sha224"])]⟩,
    ⟨[2, 16, 840, 1, 101, 3, 4, 3], [(1, ["dsa-with-sha224", "dsa-with-sha256"])]⟩,
    ⟨[2, 16, 840, 1, 113733], [(1, ["id-pki"])]⟩,
    ⟨[2, 16, 840, 1, 113733, 1], [(9, ["id-attributes"])]⟩,
    ⟨[2, 16, 840, 1, 113733, 1, 9],
      [(2, ["id-messageType", "id-pkiStatus", "id-failInfo", "id-senderNonce",
         "id-recipientNonce", "id-transactionID"])]⟩]

end Attestation.ObjectId
