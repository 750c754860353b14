import TssEsapi.Ffi.Types

/-!
# `FfiDataZeroize`

The zeroizers of `ffi/data_zeroize.rs`, one per implementing type, each returning the scrubbed
value of `self`.  `Zeroize::zeroize` of the `zeroize` crate sets an integer to `0` and every
element of an array to `0`; `ffi_data_zeroize` recurses into a field's own zeroizer.  The
macros of the source expand to the field lists written out below.

Every tagged union is dispatched by `if let Ok(algorithm) = try_from(selector) { match .. }`,
which is `zeroizeSelected`.  Five of the six tagged types zeroize their selector after that
block; `TPMT_PUBLIC` zeroizes its selector, and its fields outside the unions, inside it.
-/

namespace TssEsapi

/-- `Zeroize::zeroize` on a byte array: every byte becomes `0`. -/
def zeroizeBytes (bytes : List UInt8) : List UInt8 :=
  bytes.map fun _ => 0

/-- `if let Ok(algorithm) = try_from(selector) { scrub algorithm }`: the union member the
selector selects is scrubbed when the selector decodes, and nothing is touched otherwise. -/
def zeroizeSelected {Algorithm Payload : Type} (decode : UInt16 → Option Algorithm)
    (scrub : Algorithm → Payload → Payload) (selector : UInt16) (payload : Payload) : Payload :=
  match decode selector with
  | some algorithm => scrub algorithm payload
  | none => payload

@[simp]
theorem zeroizeSelected_some {Algorithm Payload : Type} {decode : UInt16 → Option Algorithm}
    {scrub : Algorithm → Payload → Payload} {selector : UInt16} {algorithm : Algorithm}
    (decoded : decode selector = some algorithm) (payload : Payload) :
    zeroizeSelected decode scrub selector payload = scrub algorithm payload := by
  simp [zeroizeSelected, decoded]

@[simp]
theorem zeroizeSelected_none {Algorithm Payload : Type} {decode : UInt16 → Option Algorithm}
    {scrub : Algorithm → Payload → Payload} {selector : UInt16}
    (unknown : decode selector = none) (payload : Payload) :
    zeroizeSelected decode scrub selector payload = payload := by
  simp [zeroizeSelected, unknown]

/-! ## `TPM2B`, `TPMS` and `TPML` types -/

/-- The zeroizer of every byte-buffer `TPM2B` type (`size` and the whole backing array). -/
def Tpm2bBuffer.ffiDataZeroize (self : Tpm2bBuffer) : Tpm2bBuffer :=
  { size := 0, buffer := zeroizeBytes self.buffer }

/-- `TPMS_PCR_SELECTION`: `hash`, `sizeofSelect` and `pcrSelect`. -/
def TpmsPcrSelection.ffiDataZeroize (self : TpmsPcrSelection) : TpmsPcrSelection :=
  { hash := 0, sizeofSelect := 0, pcrSelect := zeroizeBytes self.pcrSelect }

/-- `TPML_PCR_SELECTION`: `count`, then every entry of the array, in use or not. -/
def TpmlPcrSelection.ffiDataZeroize (self : TpmlPcrSelection) : TpmlPcrSelection :=
  { count := 0, pcrSelections := self.pcrSelections.map TpmsPcrSelection.ffiDataZeroize }

/-- `TPMS_CREATION_DATA`. -/
def TpmsCreationData.ffiDataZeroize (self : TpmsCreationData) : TpmsCreationData :=
  { pcrSelect := self.pcrSelect.ffiDataZeroize
    pcrDigest := self.pcrDigest.ffiDataZeroize
    locality := 0
    parentNameAlg := 0
    parentName := self.parentName.ffiDataZeroize
    parentQualifiedName := self.parentQualifiedName.ffiDataZeroize
    outsideInfo := self.outsideInfo.ffiDataZeroize }

/-- `TPM2B_CREATION_DATA`. -/
def Tpm2bCreationData.ffiDataZeroize (self : Tpm2bCreationData) : Tpm2bCreationData :=
  { size := 0, creationData := self.creationData.ffiDataZeroize }

/-- `TPMS_SENSITIVE_CREATE`: `userAuth` and `data`. -/
def TpmsSensitiveCreate.ffiDataZeroize (self : TpmsSensitiveCreate) : TpmsSensitiveCreate :=
  { userAuth := self.userAuth.ffiDataZeroize, data := self.data.ffiDataZeroize }

/-- `TPM2B_SENSITIVE_CREATE`. -/
def Tpm2bSensitiveCreate.ffiDataZeroize (self : Tpm2bSensitiveCreate) : Tpm2bSensitiveCreate :=
  { size := 0, sensitive := self.sensitive.ffiDataZeroize }

/-- `TPMS_SCHEME_HASH`: `hashAlg`. -/
def TpmsSchemeHash.ffiDataZeroize (_ : TpmsSchemeHash) : TpmsSchemeHash :=
  { hashAlg := 0 }

/-- `TPMS_SCHEME_XOR`: `hashAlg` and `kdf`. -/
def TpmsSchemeXor.ffiDataZeroize (_ : TpmsSchemeXor) : TpmsSchemeXor :=
  { hashAlg := 0, kdf := 0 }

/-- `TPMS_SCHEME_ECDAA`: `hashAlg` and `count`. -/
def TpmsSchemeEcdaa.ffiDataZeroize (_ : TpmsSchemeEcdaa) : TpmsSchemeEcdaa :=
  { hashAlg := 0, count := 0 }

/-- `TPMS_ECC_POINT`: `x` and `y`. -/
def TpmsEccPoint.ffiDataZeroize (self : TpmsEccPoint) : TpmsEccPoint :=
  { x := self.x.ffiDataZeroize, y := self.y.ffiDataZeroize }

/-- The ticket zeroizer: `tag`, `hierarchy` and `digest`. -/
def TpmtTk.ffiDataZeroize (self : TpmtTk) : TpmtTk :=
  { tag := 0, hierarchy := 0, digest := self.digest.ffiDataZeroize }

/-! ## Tagged unions with the selector zeroized last -/

section Tagged

variable (tables : AlgorithmTables)

/-- The `match` of `TPMT_SYM_DEF_OBJECT` on `(keyBits, mode)`: `Aes`, `Sm4` and `Camellia`
zeroize their members of both unions, `Null` and `Tdes` nothing. -/
def TpmtSymDefObject.zeroizeUnions : SymmetricObject → UInt16 × UInt16 → UInt16 × UInt16
  | .aes, _ => (0, 0)
  | .sm4, _ => (0, 0)
  | .camellia, _ => (0, 0)
  | .null, unions => unions
  | .tdes, unions => unions

/-- `TPMT_SYM_DEF_OBJECT`. -/
def TpmtSymDefObject.ffiDataZeroize (self : TpmtSymDefObject) : TpmtSymDefObject :=
  let unions := zeroizeSelected tables.symmetricObject TpmtSymDefObject.zeroizeUnions
    self.algorithm (self.keyBits, self.mode)
  { algorithm := 0, keyBits := unions.1, mode := unions.2 }

/-- The `match` of `TPMT_KEYEDHASH_SCHEME` on `details`. -/
def TpmtKeyedHashScheme.zeroizeDetails :
    KeyedHashSchemeAlgorithm → TpmuSchemeKeyedHash → TpmuSchemeKeyedHash
  | .xor, details => { details with exclusiveOr := details.exclusiveOr.ffiDataZeroize }
  | .hmac, details => { details with hmac := details.hmac.ffiDataZeroize }
  | .null, details => details

/-- `TPMT_KEYEDHASH_SCHEME`. -/
def TpmtKeyedHashScheme.ffiDataZeroize (self : TpmtKeyedHashScheme) : TpmtKeyedHashScheme :=
  { scheme := 0
    details := zeroizeSelected tables.keyedHashSchemeAlgorithm
      TpmtKeyedHashScheme.zeroizeDetails self.scheme self.details }

/-- The `match` of `TPMT_RSA_SCHEME` on `details`; `RsaEs` selects the empty `rsaes`. -/
def TpmtRsaScheme.zeroizeDetails : RsaSchemeAlgorithm → TpmuAsymScheme → TpmuAsymScheme
  | .rsaSsa, details => { details with rsassa := details.rsassa.ffiDataZeroize }
  | .rsaEs, details => details
  | .rsaPss, details => { details with rsapss := details.rsapss.ffiDataZeroize }
  | .oaep, details => { details with oaep := details.oaep.ffiDataZeroize }
  | .null, details => details

/-- `TPMT_RSA_SCHEME`. -/
def TpmtRsaScheme.ffiDataZeroize (self : TpmtRsaScheme) : TpmtRsaScheme :=
  { scheme := 0
    details := zeroizeSelected tables.rsaSchemeAlgorithm TpmtRsaScheme.zeroizeDetails
      self.scheme self.details }

/-- The `match` of `TPMT_ECC_SCHEME` on `details`. -/
def TpmtEccScheme.zeroizeDetails : EccSchemeAlgorithm → TpmuAsymScheme → TpmuAsymScheme
  | .ecDsa, details => { details with ecdsa := details.ecdsa.ffiDataZeroize }
  | .ecDh, details => { details with ecdh := details.ecdh.ffiDataZeroize }
  | .ecDaa, details => { details with ecdaa := details.ecdaa.ffiDataZeroize }
  | .sm2, details => { details with sm2 := details.sm2.ffiDataZeroize }
  | .ecSchnorr, details => { details with ecschnorr := details.ecschnorr.ffiDataZeroize }
  | .ecMqv, details => { details with ecmqv := details.ecmqv.ffiDataZeroize }
  | .null, details => details

/-- `TPMT_ECC_SCHEME`. -/
def TpmtEccScheme.ffiDataZeroize (self : TpmtEccScheme) : TpmtEccScheme :=
  { scheme := 0
    details := zeroizeSelected tables.eccSchemeAlgorithm TpmtEccScheme.zeroizeDetails
      self.scheme self.details }

/-- The `match` of `TPMT_KDF_SCHEME` on `details`, whose four members are one
`TPMS_SCHEME_HASH`. -/
def TpmtKdfScheme.zeroizeDetails : KeyDerivationFunction → TpmuKdfScheme → TpmuKdfScheme
  | .kdf1Sp800_56a, details => details.ffiDataZeroize
  | .kdf2, details => details.ffiDataZeroize
  | .kdf1Sp800_108, details => details.ffiDataZeroize
  | .mgf1, details => details.ffiDataZeroize
  | .null, details => details

/-- `TPMT_KDF_SCHEME`. -/
def TpmtKdfScheme.ffiDataZeroize (self : TpmtKdfScheme) : TpmtKdfScheme :=
  { scheme := 0
    details := zeroizeSelected tables.keyDerivationFunction TpmtKdfScheme.zeroizeDetails
      self.scheme self.details }

/-! ## Parameter structures and `TPMT_PUBLIC` -/

/-- `TPMS_KEYEDHASH_PARMS`: `scheme`. -/
def TpmsKeyedHashParms.ffiDataZeroize (self : TpmsKeyedHashParms) : TpmsKeyedHashParms :=
  { scheme := self.scheme.ffiDataZeroize tables }

/-- `TPMS_SYMCIPHER_PARMS`: `sym`. -/
def TpmsSymcipherParms.ffiDataZeroize (self : TpmsSymcipherParms) : TpmsSymcipherParms :=
  { sym := self.sym.ffiDataZeroize tables }

/-- `TPMS_ECC_PARMS`. -/
def TpmsEccParms.ffiDataZeroize (self : TpmsEccParms) : TpmsEccParms :=
  { symmetric := self.symmetric.ffiDataZeroize tables
    scheme := self.scheme.ffiDataZeroize tables
    curveID := 0
    kdf := self.kdf.ffiDataZeroize tables }

/-- `TPMS_RSA_PARMS`. -/
def TpmsRsaParms.ffiDataZeroize (self : TpmsRsaParms) : TpmsRsaParms :=
  { symmetric := self.symmetric.ffiDataZeroize tables
    scheme := self.scheme.ffiDataZeroize tables
    keyBits := 0
    exponent := 0 }

/-- The `match` of `TPMT_PUBLIC`, followed by `self.type_.zeroize()` inside the same
`if let`: each arm zeroizes `objectAttributes`, `nameAlg` and `authPolicy`, then its members
of `parameters` and `unique`. -/
def TpmtPublic.zeroizeArea (publicAlgorithm : PublicAlgorithm) (self : TpmtPublic) :
    TpmtPublic :=
  let self :=
    match publicAlgorithm with
    | .rsa =>
      { self with
        objectAttributes := 0, nameAlg := 0, authPolicy := self.authPolicy.ffiDataZeroize
        parameters.rsaDetail := self.parameters.rsaDetail.ffiDataZeroize tables
        unique.rsa := self.unique.rsa.ffiDataZeroize }
    | .keyedHash =>
      { self with
        objectAttributes := 0, nameAlg := 0, authPolicy := self.authPolicy.ffiDataZeroize
        parameters.keyedHashDetail := self.parameters.keyedHashDetail.ffiDataZeroize tables
        unique.keyedHash := self.unique.keyedHash.ffiDataZeroize }
    | .ecc =>
      { self with
        objectAttributes := 0, nameAlg := 0, authPolicy := self.authPolicy.ffiDataZeroize
        parameters.eccDetail := self.parameters.eccDetail.ffiDataZeroize tables
        unique.ecc := self.unique.ecc.ffiDataZeroize }
    | .symCipher =>
      { self with
        objectAttributes := 0, nameAlg := 0, authPolicy := self.authPolicy.ffiDataZeroize
        parameters.symDetail := self.parameters.symDetail.ffiDataZeroize tables
        unique.sym := self.unique.sym.ffiDataZeroize }
  { self with type_ := 0 }

/-- `TPMT_PUBLIC`: the whole scrub, `type_` included, is inside the `if let`. -/
def TpmtPublic.ffiDataZeroize (self : TpmtPublic) : TpmtPublic :=
  zeroizeSelected tables.publicAlgorithm (TpmtPublic.zeroizeArea tables) self.type_ self

/-- `TPM2B_PUBLIC`. -/
def Tpm2bPublic.ffiDataZeroize (self : Tpm2bPublic) : Tpm2bPublic :=
  { size := 0, publicArea := self.publicArea.ffiDataZeroize tables }

end Tagged

end TssEsapi
