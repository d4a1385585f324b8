import Attestation.Der.ObjectId.Arc

/-!
The registered names of directories: types of attributes, object classes, matching rules and
operational attributes.
-/
namespace Attestation.ObjectId

/-- The arcs of the directory and of its schemas for people and pilots. -/
def directoryArcs : List Arc :=
  [⟨[0, 9, 2342, 19200300, 100, 1],
      [(1, ["uid", "textEncodedORAddress", "mail", "info", "drink", "roomNumber", "photo",
         "userClass", "host", "manager", "documentIdentifier", "documentTitle", "documentVersion",
         "documentAuthor", "documentLocation"]),
       (20, ["homePhone", "secretary", "otherMailbox", "lastModifiedTime", "lastModifiedBy", "dc",
         "aRecord", "mDRecord", "mXRecord", "nSRecord", "sOARecord", "cNAMERecord"]),
       (37, ["associatedDomain", "associatedName", "homePostalAddress", "personalTitle", "mobile",
         "pager", "co", "uniqueIdentifier", "organizationalStatus", "janetMailbox",
         "mailPreferenceOption", "buildingName", "dSAQuality", "singleLevelQuality",
         "subtreeMinimumQuality", "subtreeMaximumQuality", "personalSignature", "dITRedirect",
         "audio", "documentPublisher"]),
       (60, ["jpegPhoto"])]⟩,
    ⟨[0, 9, 2342, 19200300, 100, 4],
      [(3, ["pilotObject", "pilotPerson", "account", "document", "room", "documentSeries"]),
       (13, ["domain", "rFC822LocalPart", "dNSDomain"]),
       (17, ["domainRelatedObject", "friendlyCountry", "simpleSecurityObject",
         "pilotOrganization", "pilotDSA", "qualityLabelledData"])]⟩,
    ⟨[1, 2, 36, 79672281, 1, 13],
      [(2, ["componentFilterMatch", "rdnMatch"]),
       (5, ["presentMatch", "allComponentsMatch", "directoryComponentsMatch"])]⟩,
    ⟨[1, 3, 6, 1, 1], [(20, ["entryDN"])]⟩,
    ⟨[1, 3, 6, 1, 1, 3], [(1, ["uidObject"])]⟩,
    ⟨[1, 3, 6, 1, 1, 16], [(2, ["uuidMatch", "uuidOrderingMatch", "entryUUID"])]⟩,
    ⟨[1, 3, 6, 1, 4, 1, 250, 1], [(57, ["labeledURI"])]⟩,
    ⟨[1, 3, 6, 1, 4, 1, 250, 3], [(15, ["labeledURIObject"])]⟩,
    ⟨[1, 3, 6, 1, 4, 1, 1466], [(344, ["dcObject", "domainNameForm"])]⟩,
    ⟨[1, 3, 6, 1, 4, 1, 1466, 101, 119], [(2, ["dynamicObject", "entryTtl", "dynamicSubtrees"])]⟩,
    ⟨[1, 3, 6, 1, 4, 1, 1466, 101, 120],
      [(5, ["namingContexts", "altServer", "supportedExtension"]),
       (13, ["supportedControl", "supportedSASLMechanisms", "supportedLDAPVersion",
         "ldapSyntaxes"]),
       (111, ["extensibleObject"])]⟩,
    ⟨[1, 3, 6, 1, 4, 1, 1466, 109, 114],
      [(1, ["caseExactIA5Match", "caseIgnoreIA5Match", "caseIgnoreIA5SubstringsMatch"])]⟩,
    ⟨[1, 3, 6, 1, 4, 1, 4203, 1, 3], [(5, ["supportedFeatures"])]⟩,
    ⟨[2, 5, 4],
      [(0, ["objectClass", "aliasedObjectName", "knowledgeInformation", "cn", "sn",
         "serialNumber", "c", "l", "st", "street", "o", "ou", "title", "description",
         "searchGuide", "businessCategory", "postalAddress", "postalCode", "postOfficeBox",
         "physicalDeliveryOfficeName", "telephoneNumber", "telexNumber",
         "teletexTerminalIdentifier", "facsimileTelephoneNumber", "x121Address",
         "internationalISDNNumber", "registeredAddress", "destinationIndicator",
         "preferredDeliveryMethod", "presentationAddress", "supportedApplicationContext",
         "member", "owner", "roleOccupant", "seeAlso", "userPassword", "userCertificate",
         "cACertificate", "authorityRevocationList", "certificateRevocationList",
         "crossCertificatePair", "name", "givenName", "initials", "generationQualifier",
         "x500UniqueIdentifier", "dnQualifier", "enhancedSearchGuide", "protocolInformation",
         "distinguishedName", "uniqueMember", "houseIdentifier", "supportedAlgorithms",
         "deltaRevocationList", "dmdName"]),
       (65, ["pseudonym"]),
       (72, ["id-at-role"])]⟩,
    ⟨[2, 5, 4, 7], [(1, ["c-l"])]⟩,
    ⟨[2, 5, 4, 8], [(1, ["c-st"])]⟩,
    ⟨[2, 5, 4, 9], [(1, ["c-street"])]⟩,
    ⟨[2, 5, 4, 10], [(1, ["c-o"])]⟩,
    ⟨[2, 5, 4, 11], [(1, ["c-ou"])]⟩,
    ⟨[2, 5, 4, 16], [(1, ["c-PostalAddress"])]⟩,
    ⟨[2, 5, 4, 17], [(1, ["c-PostalCode"])]⟩,
    ⟨[2, 5, 4, 18], [(1, ["c-PostOfficeBox"])]⟩,
    ⟨[2, 5, 4, 19], [(1, ["c-PhysicalDeliveryOffice"])]⟩,
    ⟨[2, 5, 4, 20], [(1, ["c-TelephoneNumber"])]⟩,
    ⟨[2, 5, 4, 21], [(1, ["c-TelexNumber"])]⟩,
    ⟨[2, 5, 4, 23], [(1, ["c-FacsimileTelephoneNumber"])]⟩,
    ⟨[2, 5, 4, 25], [(1, ["c-InternationalISDNNumber"])]⟩,
    ⟨[2, 5, 6],
      [(0, ["top", "alias", "country", "locality", "organization", "organizationalUnit", "person",
         "organizationalPerson", "organizationalRole", "groupOfNames", "residentialPerson",
         "applicationProcess", "applicationEntity", "dSA", "device", "strongAuthenticationUser",
         "certificationAuthority", "groupOfUniqueNames", "userSecurityInformation",
         "cRLDistributionPoint", "dmd", "pkiUser", "pkiCA", "deltaCRL"])]⟩,
    ⟨[2, 5, 6, 16], [(2, ["certificationAuthority-V2"])]⟩,
    ⟨[2, 5, 13],
      [(0, ["objectIdentifierMatch", "distinguishedNameMatch", "caseIgnoreMatch",
         "caseIgnoreOrderingMatch", "caseIgnoreSubstringsMatch", "caseExactMatch",
         "caseExactOrderingMatch", "caseExactSubstringsMatch", "numericStringMatch",
         "numericStringOrderingMatch", "numericStringSubstringsMatch", "caseIgnoreListMatch",
         "caseIgnoreListSubstringsMatch", "booleanMatch", "integerMatch", "integerOrderingMatch",
         "bitStringMatch", "octetStringMatch", "octetStringOrderingMatch"]),
       (20, ["telephoneNumberMatch", "telephoneNumberSubstringsMatch", "presentationAddressMatch",
         "uniqueMemberMatch", "protocolInformationMatch"]),
       (27, ["generalizedTimeMatch", "generalizedTimeOrderingMatch", "integerFirstComponentMatch",
         "objectIdentifierFirstComponentMatch", "directoryStringFirstComponentMatch", "wordMatch",
         "keywordMatch", "certificateExactMatch", "certificateMatch", "certificatePairExactMatch",
         "certificatePairMatch", "certificateListExactMatch", "certificateListMatch",
         "algorithmIdentifierMatch", "storedPrefixMatch"])]⟩,
    ⟨[2, 5, 17], [(0, ["subentry"])]⟩,
    ⟨[2, 5, 18],
      [(1, ["createTimestamp", "modifyTimestamp", "creatorsName", "modifiersName",
         "administrativeRole", "subtreeSpecification", "collectiveExclusions"]),
       (10, ["subschemaSubentry"]),
       (12, ["collectiveAttributeSubentries"])]⟩,
    ⟨[2, 5, 20], [(1, ["subschema", "collectiveAttributeSubentry"])]⟩,
    ⟨[2, 5, 21],
      [(1, ["dITStructureRules", "dITContentRules"]),
       (4, ["matchingRules", "attributeTypes", "objectClasses", "nameForms", "matchingRuleUse",
         "structuralObjectClass", "governingStructureRule"])]⟩,
    ⟨[2, 5, 23],
      [(1, ["autonomousArea", "accessControlSpecificArea", "accessControlInnerArea",
         "subschemaAdminSpecificArea", "collectiveAttributeSpecificArea",
         "collectiveAttributeInnerArea"])]⟩,
    ⟨[2, 16, 840, 1, 113730, 3, 1],
      [(1, ["carLicense", "departmentNumber", "employeeNumber", "employeeType"]),
       (34, ["ref"]),
       (39, ["preferredLanguage", "userSMIMECertificate"]),
       (216, ["userPKCS12"]),
       (241, ["displayName"])]⟩,
    ⟨[2, 16, 840, 1, 113730, 3, 2], [(2, ["inetOrgPerson"]), (6, ["referral"])]⟩]

end Attestation.ObjectId
