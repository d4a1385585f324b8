import Attestation.Der.ObjectId.Arc

/-!
The registered names of what services keep in directories: calendars, policies, published
businesses, voice mail, client profiles, mail gateways, certified mail, file systems and printers.
-/
namespace Attestation.ObjectId

/-- The arcs of the schemas for services. -/
def serviceArcs : List Arc :=
  [⟨[1, 2, 840, 113556, 1, 4],
      [(478, ["calCalURI", "calFBURL", "calCAPURI", "calCalAdrURI", "calOtherCalURIs",
         "calOtherFBURLs", "calOtherCAPURIs", "calOtherCalAdrURIs"])]⟩,
    ⟨[1, 2, 840, 113556, 1, 5], [(87, ["calEntry"])]⟩,
    ⟨[1, 3, 6, 1, 1, 6, 1],
      [(1, ["pcimPolicy", "pcimGroup", "pcimGroupAuxClass", "pcimGroupInstance", "pcimRule",
         "pcimRuleAuxClass", "pcimRuleInstance", "pcimRuleConditionAssociation",
         "pcimRuleValidityAssociation", "pcimRuleActionAssociation", "pcimConditionAuxClass",
         "pcimTPCAuxClass", "pcimConditionVendorAuxClass", "pcimActionAuxClass",
         "pcimActionVendorAuxClass", "pcimPolicyInstance", "pcimElementAuxClass",
         "pcimRepository", "pcimRepositoryAuxClass", "pcimRepositoryInstance",
         "pcimSubtreesPtrAuxClass", "pcimGroupContainmentAuxClass",
         "pcimRuleContainmentAuxClass"])]⟩,
    ⟨[1, 3, 6, 1, 1, 6, 2],
      [(3, ["pcimKeywords", "pcimGroupName", "pcimRuleName", "pcimRuleEnabled",
         "pcimRuleConditionListType", "pcimRuleConditionList", "pcimRuleActionList",
         "pcimRuleValidityPeriodList", "pcimRuleUsage", "pcimRulePriority", "pcimRuleMandatory",
         "pcimRuleSequencedActions", "pcimRoles", "pcimConditionGroupNumber",
         "pcimConditionNegated", "pcimConditionName", "pcimConditionDN",
         "pcimValidityConditionName", "pcimTimePeriodConditionDN", "pcimActionName",
         "pcimActionOrder", "pcimActionDN", "pcimTPCTime", "pcimTPCMonthOfYearMask",
         "pcimTPCDayOfMonthMask", "pcimTPCDayOfWeekMask", "pcimTPCTimeOfDayMask",
         "pcimTPCLocalOrUtcTime", "pcimVendorConstraintData", "pcimVendorConstraintEncoding",
         "pcimVendorActionData", "pcimVendorActionEncoding", "pcimPolicyInstanceName",
         "pcimRepositoryName", "pcimSubtreesAuxContainedSet", "pcimGroupsAuxContainedSet",
         "pcimRulesAuxContainedSet"])]⟩,
    ⟨[1, 3, 6, 1, 1, 9, 1],
      [(1, ["pcelsPolicySet", "pcelsPolicySetAssociation", "pcelsGroup", "pcelsGroupAuxClass",
         "pcelsGroupInstance", "pcelsRule", "pcelsRuleAuxClass", "pcelsRuleInstance",
         "pcelsConditionAssociation", "pcelsActionAssociation", "pcelsSimpleConditionAuxClass",
         "pcelsCompoundConditionAuxClass", "pcelsCompoundFilterConditionAuxClass",
         "pcelsSimpleActionAuxClass", "pcelsCompoundActionAuxClass", "pcelsVariable",
         "pcelsExplicitVariableAuxClass", "pcelsImplicitVariableAuxClass",
         "pcelsSourceIPv4VariableAuxClass", "pcelsSourceIPv6VariableAuxClass",
         "pcelsDestinationIPv4VariableAuxClass", "pcelsDestinationIPv6VariableAuxClass",
         "pcelsSourcePortVariableAuxClass", "pcelsDestinationPortVariableAuxClass",
         "pcelsIPProtocolVariableAuxClass", "pcelsIPVersionVariableAuxClass",
         "pcelsIPToSVariableAuxClass", "pcelsDSCPVariableAuxClass", "pcelsFlowIdVariableAuxClass",
         "pcelsSourceMACVariableAuxClass", "pcelsDestinationMACVariableAuxClass",
         "pcelsVLANVariableAuxClass", "pcelsCoSVariableAuxClass",
         "pcelsEthertypeVariableAuxClass", "pcelsSourceSAPVariableAuxClass",
         "pcelsDestinationSAPVariableAuxClass", "pcelsSNAPOUIVariableAuxClass",
         "pcelsSNAPTypeVariableAuxClass", "pcelsFlowDirectionVariableAuxClass",
         "pcelsValueAuxClass", "pcelsIPv4AddrValueAuxClass", "pcelsIPv6AddrValueAuxClass",
         "pcelsMACAddrValueAuxClass", "pcelsStringValueAuxClass", "pcelsBitStringValueAuxClass",
         "pcelsIntegerValueAuxClass", "pcelsBooleanValueAuxClass", "pcelsReusableContainer",
         "pcelsReusableContainerAuxClass", "pcelsReusableContainerInstance",
         "pcelsRoleCollection", "pcelsFilterEntryBase", "pcelsIPHeadersFilter", "pcels8021Filter",
         "pcelsFilterListAuxClass", "pcelsVendorVariableAuxClass", "pcelsVendorValueAuxClass"])]⟩,
    ⟨[1, 3, 6, 1, 1, 9, 2],
      [(1, ["pcelsPolicySetName", "pcelsDecisionStrategy", "pcelsPolicySetList", "pcelsPriority",
         "pcelsPolicySetDN", "pcelsConditionListType", "pcelsConditionList", "pcelsActionList",
         "pcelsSequencedActions", "pcelsExecutionStrategy", "pcelsVariableDN", "pcelsValueDN",
         "pcelsIsMirrored", "pcelsVariableName", "pcelsExpectedValueList",
         "pcelsVariableModelClass", "pcelsVariableModelProperty", "pcelsExpectedValueTypes",
         "pcelsValueName", "pcelsIPv4AddrList", "pcelsIPv6AddrList", "pcelsMACAddrList",
         "pcelsStringList", "pcelsBitStringList", "pcelsIntegerList", "pcelsBoolean",
         "pcelsReusableContainerName", "pcelsReusableContainerList", "pcelsRole",
         "pcelsRoleCollectionName", "pcelsElementList", "pcelsFilterName", "pcelsFilterIsNegated",
         "pcelsIPHdrVersion", "pcelsIPHdrSourceAddress", "pcelsIPHdrSourceAddressEndOfRange",
         "pcelsIPHdrSourceMask", "pcelsIPHdrDestAddress", "pcelsIPHdrDestAddressEndOfRange",
         "pcelsIPHdrDestMask", "pcelsIPHdrProtocolID", "pcelsIPHdrSourcePortStart",
         "pcelsIPHdrSourcePortEnd", "pcelsIPHdrDestPortStart", "pcelsIPHdrDestPortEnd",
         "pcelsIPHdrDSCPList", "pcelsIPHdrFlowLabel", "pcels8021HdrSourceMACAddress",
         "pcels8021HdrSourceMACMask", "pcels8021HdrDestMACAddress", "pcels8021HdrDestMACMask",
         "pcels8021HdrProtocolID", "pcels8021HdrPriority", "pcels8021HdrVLANID",
         "pcelsFilterListName", "pcelsFilterDirection", "pcelsFilterEntryList",
         "pcelsVendorVariableData", "pcelsVendorVariableEncoding", "pcelsVendorValueData",
         "pcelsVendorValueEncoding", "pcelsRuleValidityPeriodList"])]⟩,
    ⟨[1, 3, 6, 1, 1, 10, 4],
      [(1, ["uddiBusinessKey", "uddiAuthorizedName", "uddiOperator", "uddiName",
         "uddiDescription", "uddiDiscoveryURLs", "uddiUseType", "uddiPersonName", "uddiPhone",
         "uddiEMail", "uddiSortCode", "uddiTModelKey", "uddiAddressLine", "uddiIdentifierBag",
         "uddiCategoryBag", "uddiKeyedReference", "uddiServiceKey", "uddiBindingKey",
         "uddiAccessPoint", "uddiHostingRedirector", "uddiInstanceDescription",
         "uddiInstanceParms", "uddiOverviewDescription", "uddiOverviewURL", "uddiFromKey",
         "uddiToKey", "uddiUUID", "uddiIsHidden", "uddiIsProjection", "uddiLang",
         "uddiv3BusinessKey", "uddiv3ServiceKey", "uddiv3BindingKey", "uddiv3TmodelKey",
         "uddiv3DigitalSignature", "uddiv3NodeId", "uddiv3EntityModificationTime",
         "uddiv3SubscriptionKey", "uddiv3SubscriptionFilter", "uddiv3NotificationInterval",
         "uddiv3MaxEntities", "uddiv3ExpiresAfter", "uddiv3BriefResponse", "uddiv3EntityKey",
         "uddiv3EntityCreationTime", "uddiv3EntityDeletionTime"])]⟩,
    ⟨[1, 3, 6, 1, 1, 10, 6],
      [(1, ["uddiBusinessEntity", "uddiContact", "uddiAddress", "uddiBusinessService",
         "uddiBindingTemplate", "uddiTModelInstanceInfo", "uddiTModel", "uddiPublisherAssertion",
         "uddiv3Subscription", "uddiv3EntityObituary"])]⟩,
    ⟨[1, 3, 6, 1, 1, 10, 15],
      [(1, ["uddiBusinessEntityNameForm", "uddiContactNameForm", "uddiAddressNameForm",
         "uddiBusinessServiceNameForm", "uddiBindingTemplateNameForm",
         "uddiTModelInstanceInfoNameForm", "uddiTModelNameForm", "uddiPublisherAssertionNameForm",
         "uddiv3SubscriptionNameForm", "uddiv3EntityObituaryNameForm"])]⟩,
    ⟨[1, 3, 6, 1, 1, 11, 1], [(1, ["vPIMUser"])]⟩,
    ⟨[1, 3, 6, 1, 1, 11, 2],
      [(1, ["vPIMTelephoneNumber", "vPIMRfc822Mailbox", "vPIMSpokenName",
         "vPIMSupportedUABehaviors", "vPIMSupportedAudioMediaTypes",
         "vPIMSupportedMessageContext", "vPIMTextName", "vPIMExtendedAbsenceStatus",
         "vPIMMaxMessageSize", "vPIMSubMailboxes"])]⟩,
    ⟨[1, 3, 6, 1, 1, 23], [(1, ["jidObject", "jid"])]⟩,
    ⟨[1, 3, 6, 1, 4, 1, 11, 1, 3, 1, 1],
      [(0, ["defaultServerList", "defaultSearchBase", "preferredServerList", "searchTimeLimit",
         "bindTimeLimit", "followReferrals", "authenticationMethod", "profileTTL"]),
       (9, ["attributeMap", "credentialLevel", "objectclassMap", "defaultSearchScope",
         "serviceCredentialLevel", "serviceSearchDescriptor", "serviceAuthenticationMethod",
         "dereferenceAliases"])]⟩,
    ⟨[1, 3, 6, 1, 4, 1, 11, 1, 3, 1, 2], [(5, ["DUAConfigProfile"])]⟩,
    ⟨[1, 3, 6, 1, 4, 1, 453, 7, 1],
      [(1, ["subtree", "table", "tableEntry", "mixerGateway", "distinguishedNameTableEntry"])]⟩,
    ⟨[1, 3, 6, 1, 4, 1, 453, 7, 2],
      [(1, ["textTableKey", "textTableValue", "associatedX400Gateway"]),
       (6, ["associatedORAddress", "oRAddressComponentType", "associatedInternetGateway",
         "mcgamTables"])]⟩,
    ⟨[1, 3, 6, 1, 4, 1, 16572, 2, 1], [(1, ["LDIFLocationURLObject", "provider"])]⟩,
    ⟨[1, 3, 6, 1, 4, 1, 16572, 2, 2],
      [(1, ["providerCertificateHash", "providerCertificate", "providerName", "mailReceipt",
         "managedDomains", "LDIFLocationURL", "providerUnit"])]⟩,
    ⟨[1, 3, 6, 1, 4, 1, 31103, 1],
      [(1, ["fedfsUuid", "fedfsNetAddr", "fedfsNetPort", "fedfsFsnUuid", "fedfsNsdbName",
         "fedfsNsdbPort", "fedfsNcePrefix", "fedfsFslUuid", "fedfsFslHost", "fedfsFslPort",
         "fedfsFslTTL", "fedfsAnnotation", "fedfsDescr", "fedfsNceDN", "fedfsFsnTTL"]),
       (100, ["fedfsNfsPath", "fedfsNfsMajorVer", "fedfsNfsMinorVer", "fedfsNfsCurrency",
         "fedfsNfsGenFlagWritable", "fedfsNfsGenFlagGoing", "fedfsNfsGenFlagSplit",
         "fedfsNfsTransFlagRdma", "fedfsNfsClassSimul", "fedfsNfsClassHandle",
         "fedfsNfsClassFileid", "fedfsNfsClassWritever", "fedfsNfsClassChange",
         "fedfsNfsClassReaddir", "fedfsNfsReadRank", "fedfsNfsReadOrder", "fedfsNfsWriteRank",
         "fedfsNfsWriteOrder", "fedfsNfsVarSub", "fedfsNfsValidFor", "fedfsNfsURI"]),
       (1001, ["fedfsNsdbContainerInfo", "fedfsFsn", "fedfsFsl", "fedfsNfsFsl"])]⟩,
    ⟨[1, 3, 18, 0, 2, 4],
      [(1107, ["printer-xri-supported", "printer-aliases", "printer-charset-configured",
         "printer-job-priority-supported", "printer-job-k-octets-supported",
         "printer-current-operator", "printer-service-person",
         "printer-delivery-orientation-supported", "printer-stacking-order-supported",
         "printer-output-features-supported", "printer-media-local-supported",
         "printer-copies-supported", "printer-natural-language-configured",
         "printer-print-quality-supported", "printer-resolution-supported",
         "printer-media-supported", "printer-sides-supported", "printer-number-up-supported",
         "printer-finishings-supported", "printer-pages-per-minute-color",
         "printer-pages-per-minute", "printer-compression-supported", "printer-color-supported",
         "printer-document-format-supported", "printer-charset-supported",
         "printer-multiple-document-jobs-supported", "printer-ipp-versions-supported",
         "printer-more-info", "printer-name", "printer-location",
         "printer-generated-natural-language-supported", "printer-make-and-model", "printer-info",
         "printer-uri"])]⟩,
    ⟨[1, 3, 18, 0, 2, 6],
      [(253, ["printerLPR", "slpServicePrinter", "printerService", "printerIPP",
         "printerServiceAuxClass", "printerAbstract"])]⟩,
    ⟨[1, 3, 18, 0, 2, 24, 46, 1],
      [(101, ["printer-device-id", "printer-device-service-count"]),
       (104, ["printer-uuid", "printer-charge-info", "printer-charge-info-uri",
         "printer-geo-location", "printer-ipp-features-supported"])]⟩]

end Attestation.ObjectId
