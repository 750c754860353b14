import TssEsapi.Ffi.Algorithm

/-!
# The TSS wire structures

The `tss2_esys` structures that `ffi/data_zeroize.rs` scrubs, field for field as the bindings
declare them.  A fixed-size C array is a `List` whose length is the array's capacity; scalars
keep their width.

A C union keeps all its members in one memory region.  A union whose members all have one
type (`TPMU_SYM_KEY_BITS` and `TPMU_SYM_MODE`, all `UINT16`; `TPMU_KDF_SCHEME`, all
`TPMS_SCHEME_HASH`) is that type: writing any member writes it.  Any other union is a record
with one field per member the zeroizers read.  A zeroizer reads and writes only the member its
discriminant selects, so what is proved here about that member, or about a union nothing
writes, holds of the overlapping memory as well.
-/

namespace TssEsapi

/-- A length-prefixed byte array, the layout of every `TPM2B` type of plain bytes:
`TPM2B_DIGEST`, `_DATA`, `_ECC_PARAMETER`, `_ENCRYPTED_SECRET`, `_ID_OBJECT`, `_IV`,
`_MAX_BUFFER`, `_MAX_NV_BUFFER`, `_PRIVATE`, `_PRIVATE_KEY_RSA`, `_PRIVATE_VENDOR_SPECIFIC`,
`_PUBLIC_KEY_RSA`, `_SENSITIVE_DATA`, `_SYM_KEY` and `_NAME`.  The array is called `buffer`,
`secret`, `credential` or `name` in the bindings; its length is the type's capacity, whatever
`size` says. -/
structure Tpm2bBuffer where
  size : UInt16
  buffer : List UInt8
  deriving DecidableEq, Repr, Inhabited

/-- `TPM2B_DIGEST`. -/
abbrev Tpm2bDigest := Tpm2bBuffer

/-- `TPM2B_AUTH`, which is `TPM2B_DIGEST`. -/
abbrev Tpm2bAuth := Tpm2bDigest

/-- `TPM2B_DATA`. -/
abbrev Tpm2bData := Tpm2bBuffer

/-- `TPM2B_ECC_PARAMETER`. -/
abbrev Tpm2bEccParameter := Tpm2bBuffer

/-- `TPM2B_NAME`. -/
abbrev Tpm2bName := Tpm2bBuffer

/-- `TPM2B_PUBLIC_KEY_RSA`. -/
abbrev Tpm2bPublicKeyRsa := Tpm2bBuffer

/-- `TPM2B_SENSITIVE_DATA`. -/
abbrev Tpm2bSensitiveData := Tpm2bBuffer

/-- `TPM2B_ENCRYPTED_SECRET`, whose array is `secret`. -/
abbrev Tpm2bEncryptedSecret := Tpm2bBuffer

/-- `TPM2B_ID_OBJECT`, whose array is `credential`. -/
abbrev Tpm2bIdObject := Tpm2bBuffer

/-- `TPM2B_IV`. -/
abbrev Tpm2bIv := Tpm2bBuffer

/-- `TPM2B_MAX_BUFFER`. -/
abbrev Tpm2bMaxBuffer := Tpm2bBuffer

/-- `TPM2B_MAX_NV_BUFFER`. -/
abbrev Tpm2bMaxNvBuffer := Tpm2bBuffer

/-- `TPM2B_PRIVATE`. -/
abbrev Tpm2bPrivate := Tpm2bBuffer

/-- `TPM2B_PRIVATE_KEY_RSA`. -/
abbrev Tpm2bPrivateKeyRsa := Tpm2bBuffer

/-- `TPM2B_PRIVATE_VENDOR_SPECIFIC`. -/
abbrev Tpm2bPrivateVendorSpecific := Tpm2bBuffer

/-- `TPM2B_SYM_KEY`. -/
abbrev Tpm2bSymKey := Tpm2bBuffer

/-- `TPMS_PCR_SELECTION`. -/
structure TpmsPcrSelection where
  hash : UInt16
  sizeofSelect : UInt8
  pcrSelect : List UInt8
  deriving DecidableEq, Repr, Inhabited

/-- `TPML_PCR_SELECTION`: the first `count` entries of the fixed array `pcrSelections` are in
use. -/
structure TpmlPcrSelection where
  count : UInt32
  pcrSelections : List TpmsPcrSelection
  deriving DecidableEq, Repr, Inhabited

/-- `TPMS_CREATION_DATA`. -/
structure TpmsCreationData where
  pcrSelect : TpmlPcrSelection
  pcrDigest : Tpm2bDigest
  locality : UInt8
  parentNameAlg : UInt16
  parentName : Tpm2bName
  parentQualifiedName : Tpm2bName
  outsideInfo : Tpm2bData
  deriving DecidableEq, Repr, Inhabited

/-- `TPM2B_CREATION_DATA`. -/
structure Tpm2bCreationData where
  size : UInt16
  creationData : TpmsCreationData
  deriving DecidableEq, Repr, Inhabited

/-- `TPMS_SENSITIVE_CREATE`. -/
structure TpmsSensitiveCreate where
  userAuth : Tpm2bAuth
  data : Tpm2bSensitiveData
  deriving DecidableEq, Repr, Inhabited

/-- `TPM2B_SENSITIVE_CREATE`. -/
structure Tpm2bSensitiveCreate where
  size : UInt16
  sensitive : TpmsSensitiveCreate
  deriving DecidableEq, Repr, Inhabited

/-- `TPMS_SCHEME_HASH`, which is also `TPMS_SCHEME_HMAC` and every scheme of `TPMU_ASYM_SCHEME`
and `TPMU_KDF_SCHEME` that carries only a hash. -/
structure TpmsSchemeHash where
  hashAlg : UInt16
  deriving DecidableEq, Repr, Inhabited

/-- `TPMS_SCHEME_XOR`. -/
structure TpmsSchemeXor where
  hashAlg : UInt16
  kdf : UInt16
  deriving DecidableEq, Repr, Inhabited

/-- `TPMS_SCHEME_ECDAA`. -/
structure TpmsSchemeEcdaa where
  hashAlg : UInt16
  count : UInt16
  deriving DecidableEq, Repr, Inhabited

/-- `TPMU_SCHEME_KEYEDHASH`. -/
structure TpmuSchemeKeyedHash where
  hmac : TpmsSchemeHash
  exclusiveOr : TpmsSchemeXor
  deriving DecidableEq, Repr, Inhabited

/-- `TPMU_ASYM_SCHEME`, without `rsaes` (a `TPMS_EMPTY`, which has no field) and `anySig`
(never read). -/
structure TpmuAsymScheme where
  ecdh : TpmsSchemeHash
  ecmqv : TpmsSchemeHash
  rsassa : TpmsSchemeHash
  rsapss : TpmsSchemeHash
  ecdsa : TpmsSchemeHash
  ecdaa : TpmsSchemeEcdaa
  sm2 : TpmsSchemeHash
  ecschnorr : TpmsSchemeHash
  oaep : TpmsSchemeHash
  deriving DecidableEq, Repr, Inhabited

/-- `TPMU_KDF_SCHEME`: its members `mgf1`, `kdf1_sp800_56a`, `kdf2` and `kdf1_sp800_108` are
all `TPMS_SCHEME_HASH`. -/
abbrev TpmuKdfScheme := TpmsSchemeHash

/-- `TPMT_KEYEDHASH_SCHEME`. -/
structure TpmtKeyedHashScheme where
  scheme : UInt16
  details : TpmuSchemeKeyedHash
  deriving DecidableEq, Repr, Inhabited

/-- `TPMT_RSA_SCHEME`. -/
structure TpmtRsaScheme where
  scheme : UInt16
  details : TpmuAsymScheme
  deriving DecidableEq, Repr, Inhabited

/-- `TPMT_ECC_SCHEME`. -/
structure TpmtEccScheme where
  scheme : UInt16
  details : TpmuAsymScheme
  deriving DecidableEq, Repr, Inhabited

/-- `TPMT_KDF_SCHEME`. -/
structure TpmtKdfScheme where
  scheme : UInt16
  details : TpmuKdfScheme
  deriving DecidableEq, Repr, Inhabited

/-- `TPMT_SYM_DEF_OBJECT`.  `keyBits` (`TPMU_SYM_KEY_BITS`) and `mode` (`TPMU_SYM_MODE`) are
unions of `UINT16` members only (`aes`, `sm4`, `camellia`, `sym`, and `exclusiveOr` for the
key bits), so each is one 16-bit word. -/
structure TpmtSymDefObject where
  algorithm : UInt16
  keyBits : UInt16
  mode : UInt16
  deriving DecidableEq, Repr, Inhabited

/-- `TPMS_KEYEDHASH_PARMS`. -/
structure TpmsKeyedHashParms where
  scheme : TpmtKeyedHashScheme
  deriving DecidableEq, Repr, Inhabited

/-- `TPMS_SYMCIPHER_PARMS`. -/
structure TpmsSymcipherParms where
  sym : TpmtSymDefObject
  deriving DecidableEq, Repr, Inhabited

/-- `TPMS_RSA_PARMS`. -/
structure TpmsRsaParms where
  symmetric : TpmtSymDefObject
  scheme : TpmtRsaScheme
  keyBits : UInt16
  exponent : UInt32
  deriving DecidableEq, Repr, Inhabited

/-- `TPMS_ECC_PARMS`. -/
structure TpmsEccParms where
  symmetric : TpmtSymDefObject
  scheme : TpmtEccScheme
  curveID : UInt16
  kdf : TpmtKdfScheme
  deriving DecidableEq, Repr, Inhabited

/-- `TPMS_ECC_POINT`. -/
structure TpmsEccPoint where
  x : Tpm2bEccParameter
  y : Tpm2bEccParameter
  deriving DecidableEq, Repr, Inhabited

/-- `TPMU_PUBLIC_PARMS`, without `asymDetail` (never read). -/
structure TpmuPublicParms where
  keyedHashDetail : TpmsKeyedHashParms
  symDetail : TpmsSymcipherParms
  rsaDetail : TpmsRsaParms
  eccDetail : TpmsEccParms
  deriving DecidableEq, Repr, Inhabited

/-- `TPMU_PUBLIC_ID`, without `derive` (never read). -/
structure TpmuPublicId where
  keyedHash : Tpm2bDigest
  sym : Tpm2bDigest
  rsa : Tpm2bPublicKeyRsa
  ecc : TpmsEccPoint
  deriving DecidableEq, Repr, Inhabited

/-- `TPMT_PUBLIC`: `type_` selects the member of `parameters` and of `unique`. -/
structure TpmtPublic where
  type_ : UInt16
  nameAlg : UInt16
  objectAttributes : UInt32
  authPolicy : Tpm2bDigest
  parameters : TpmuPublicParms
  unique : TpmuPublicId
  deriving DecidableEq, Repr, Inhabited

/-- `TPM2B_PUBLIC`. -/
structure Tpm2bPublic where
  size : UInt16
  publicArea : TpmtPublic
  deriving DecidableEq, Repr, Inhabited

/-- The layout shared by the tickets `TPMT_TK_CREATION`, `TPMT_TK_VERIFIED`, `TPMT_TK_AUTH`
and `TPMT_TK_HASHCHECK`. -/
structure TpmtTk where
  tag : UInt16
  hierarchy : UInt32
  digest : Tpm2bDigest
  deriving DecidableEq, Repr, Inhabited

/-- `TPMT_TK_CREATION`. -/
abbrev TpmtTkCreation := TpmtTk

/-- `TPMT_TK_VERIFIED`. -/
abbrev TpmtTkVerified := TpmtTk

/-- `TPMT_TK_AUTH`. -/
abbrev TpmtTkAuth := TpmtTk

/-- `TPMT_TK_HASHCHECK`. -/
abbrev TpmtTkHashcheck := TpmtTk

end TssEsapi
