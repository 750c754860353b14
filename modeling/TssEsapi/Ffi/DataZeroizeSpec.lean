import TssEsapi.Ffi.DataZeroize
import Mathlib.Data.List.Forall2

/-!
# What the zeroizers clear

`Scrubbed original after` says what holds of a value once its zeroizer ran on `original`:
every length prefix, selector and scalar is `0`, every backing array holds as many zero bytes
as before, whatever its length prefix said, and inside a tagged union the member that the
original selector selects is scrubbed in turn.  `decodes` says that every selector met on the
way decodes.  `FfiType` names the implementors of `FfiDataZeroize`, so that one statement
ranges over all of them.

Two dispatches depart from the member-by-member picture.  `TPMT_SYM_DEF_OBJECT` clears
`keyBits` and `mode` for `Aes`, `Sm4` and `Camellia` only: `Tdes` has no member of its own in
the bindings and is handled with `Null`.  `TPMT_PUBLIC` with a selector that does not decode
comes back unchanged, its selector and the fields outside its unions included, while the other
five tagged types still zeroize their selector.
-/

namespace TssEsapi

/-- The backing array `after` holds as many bytes as `original`, all `0`. -/
def ZeroedArray (original after : List UInt8) : Prop :=
  after = List.replicate original.length 0

theorem zeroizeBytes_zeroed (bytes : List UInt8) : ZeroedArray bytes (zeroizeBytes bytes) :=
  List.map_const' bytes 0

/-! ## Types without a selector -/

/-- A length-prefixed buffer: zero prefix, zero array. -/
def Tpm2bBuffer.Scrubbed (original after : Tpm2bBuffer) : Prop :=
  after.size = 0 ∧ ZeroedArray original.buffer after.buffer

@[simp]
theorem Tpm2bBuffer.ffiDataZeroize_scrubbed (self : Tpm2bBuffer) :
    self.Scrubbed self.ffiDataZeroize :=
  ⟨rfl, zeroizeBytes_zeroed _⟩

def TpmsPcrSelection.Scrubbed (original after : TpmsPcrSelection) : Prop :=
  after.hash = 0 ∧ after.sizeofSelect = 0 ∧ ZeroedArray original.pcrSelect after.pcrSelect

@[simp]
theorem TpmsPcrSelection.ffiDataZeroize_scrubbed (self : TpmsPcrSelection) :
    self.Scrubbed self.ffiDataZeroize :=
  ⟨rfl, rfl, zeroizeBytes_zeroed _⟩

/-- Every entry of the array is scrubbed, the ones past `count` included. -/
def TpmlPcrSelection.Scrubbed (original after : TpmlPcrSelection) : Prop :=
  after.count = 0 ∧
    List.Forall₂ TpmsPcrSelection.Scrubbed original.pcrSelections after.pcrSelections

@[simp]
theorem TpmlPcrSelection.ffiDataZeroize_scrubbed (self : TpmlPcrSelection) :
    self.Scrubbed self.ffiDataZeroize :=
  ⟨rfl, List.forall₂_map_right_iff.mpr (List.forall₂_same.mpr fun entry _ =>
    entry.ffiDataZeroize_scrubbed)⟩

def TpmsCreationData.Scrubbed (original after : TpmsCreationData) : Prop :=
  original.pcrSelect.Scrubbed after.pcrSelect ∧ original.pcrDigest.Scrubbed after.pcrDigest ∧
    after.locality = 0 ∧ after.parentNameAlg = 0 ∧
    original.parentName.Scrubbed after.parentName ∧
    original.parentQualifiedName.Scrubbed after.parentQualifiedName ∧
    original.outsideInfo.Scrubbed after.outsideInfo

@[simp]
theorem TpmsCreationData.ffiDataZeroize_scrubbed (self : TpmsCreationData) :
    self.Scrubbed self.ffiDataZeroize := by
  simp [Scrubbed, ffiDataZeroize]

def Tpm2bCreationData.Scrubbed (original after : Tpm2bCreationData) : Prop :=
  after.size = 0 ∧ original.creationData.Scrubbed after.creationData

@[simp]
theorem Tpm2bCreationData.ffiDataZeroize_scrubbed (self : Tpm2bCreationData) :
    self.Scrubbed self.ffiDataZeroize :=
  ⟨rfl, self.creationData.ffiDataZeroize_scrubbed⟩

def TpmsSensitiveCreate.Scrubbed (original after : TpmsSensitiveCreate) : Prop :=
  original.userAuth.Scrubbed after.userAuth ∧ original.data.Scrubbed after.data

@[simp]
theorem TpmsSensitiveCreate.ffiDataZeroize_scrubbed (self : TpmsSensitiveCreate) :
    self.Scrubbed self.ffiDataZeroize :=
  ⟨self.userAuth.ffiDataZeroize_scrubbed, self.data.ffiDataZeroize_scrubbed⟩

def Tpm2bSensitiveCreate.Scrubbed (original after : Tpm2bSensitiveCreate) : Prop :=
  after.size = 0 ∧ original.sensitive.Scrubbed after.sensitive

@[simp]
theorem Tpm2bSensitiveCreate.ffiDataZeroize_scrubbed (self : Tpm2bSensitiveCreate) :
    self.Scrubbed self.ffiDataZeroize :=
  ⟨rfl, self.sensitive.ffiDataZeroize_scrubbed⟩

def TpmsSchemeHash.Scrubbed (_ after : TpmsSchemeHash) : Prop :=
  after.hashAlg = 0

@[simp]
theorem TpmsSchemeHash.ffiDataZeroize_scrubbed (self : TpmsSchemeHash) :
    self.Scrubbed self.ffiDataZeroize :=
  rfl

def TpmsSchemeXor.Scrubbed (_ after : TpmsSchemeXor) : Prop :=
  after.hashAlg = 0 ∧ after.kdf = 0

@[simp]
theorem TpmsSchemeXor.ffiDataZeroize_scrubbed (self : TpmsSchemeXor) :
    self.Scrubbed self.ffiDataZeroize :=
  ⟨rfl, rfl⟩

def TpmsSchemeEcdaa.Scrubbed (_ after : TpmsSchemeEcdaa) : Prop :=
  after.hashAlg = 0 ∧ after.count = 0

@[simp]
theorem TpmsSchemeEcdaa.ffiDataZeroize_scrubbed (self : TpmsSchemeEcdaa) :
    self.Scrubbed self.ffiDataZeroize :=
  ⟨rfl, rfl⟩

def TpmsEccPoint.Scrubbed (original after : TpmsEccPoint) : Prop :=
  original.x.Scrubbed after.x ∧ original.y.Scrubbed after.y

@[simp]
theorem TpmsEccPoint.ffiDataZeroize_scrubbed (self : TpmsEccPoint) :
    self.Scrubbed self.ffiDataZeroize :=
  ⟨self.x.ffiDataZeroize_scrubbed, self.y.ffiDataZeroize_scrubbed⟩

def TpmtTk.Scrubbed (original after : TpmtTk) : Prop :=
  after.tag = 0 ∧ after.hierarchy = 0 ∧ original.digest.Scrubbed after.digest

@[simp]
theorem TpmtTk.ffiDataZeroize_scrubbed (self : TpmtTk) : self.Scrubbed self.ffiDataZeroize :=
  ⟨rfl, rfl, self.digest.ffiDataZeroize_scrubbed⟩

/-! ## Tagged unions -/

section Tagged

variable (tables : AlgorithmTables)

/-- The selector is `0`; the key size and mode are `0` for the algorithms with a member of
their own in both unions. -/
def TpmtSymDefObject.Scrubbed (original after : TpmtSymDefObject) : Prop :=
  after.algorithm = 0 ∧
    match tables.symmetricObject original.algorithm with
    | some .aes | some .sm4 | some .camellia => after.keyBits = 0 ∧ after.mode = 0
    | _ => True

@[simp]
theorem TpmtSymDefObject.ffiDataZeroize_scrubbed (self : TpmtSymDefObject) :
    self.Scrubbed tables (self.ffiDataZeroize tables) := by
  cases decoded : tables.symmetricObject self.algorithm with
  | none => simp [Scrubbed, ffiDataZeroize, decoded]
  | some algorithm =>
    cases algorithm <;> simp [Scrubbed, ffiDataZeroize, decoded, zeroizeUnions]

def TpmtKeyedHashScheme.Scrubbed (original after : TpmtKeyedHashScheme) : Prop :=
  after.scheme = 0 ∧
    match tables.keyedHashSchemeAlgorithm original.scheme with
    | some .hmac => original.details.hmac.Scrubbed after.details.hmac
    | some .xor => original.details.exclusiveOr.Scrubbed after.details.exclusiveOr
    | _ => True

@[simp]
theorem TpmtKeyedHashScheme.ffiDataZeroize_scrubbed (self : TpmtKeyedHashScheme) :
    self.Scrubbed tables (self.ffiDataZeroize tables) := by
  cases decoded : tables.keyedHashSchemeAlgorithm self.scheme with
  | none => simp [Scrubbed, ffiDataZeroize, decoded]
  | some algorithm =>
    cases algorithm <;> simp [Scrubbed, ffiDataZeroize, decoded, zeroizeDetails]

def TpmtRsaScheme.Scrubbed (original after : TpmtRsaScheme) : Prop :=
  after.scheme = 0 ∧
    match tables.rsaSchemeAlgorithm original.scheme with
    | some .rsaSsa => original.details.rsassa.Scrubbed after.details.rsassa
    | some .rsaPss => original.details.rsapss.Scrubbed after.details.rsapss
    | some .oaep => original.details.oaep.Scrubbed after.details.oaep
    | _ => True

@[simp]
theorem TpmtRsaScheme.ffiDataZeroize_scrubbed (self : TpmtRsaScheme) :
    self.Scrubbed tables (self.ffiDataZeroize tables) := by
  cases decoded : tables.rsaSchemeAlgorithm self.scheme with
  | none => simp [Scrubbed, ffiDataZeroize, decoded]
  | some algorithm =>
    cases algorithm <;> simp [Scrubbed, ffiDataZeroize, decoded, zeroizeDetails]

def TpmtEccScheme.Scrubbed (original after : TpmtEccScheme) : Prop :=
  after.scheme = 0 ∧
    match tables.eccSchemeAlgorithm original.scheme with
    | some .ecDsa => original.details.ecdsa.Scrubbed after.details.ecdsa
    | some .ecDh => original.details.ecdh.Scrubbed after.details.ecdh
    | some .ecDaa => original.details.ecdaa.Scrubbed after.details.ecdaa
    | some .sm2 => original.details.sm2.Scrubbed after.details.sm2
    | some .ecSchnorr => original.details.ecschnorr.Scrubbed after.details.ecschnorr
    | some .ecMqv => original.details.ecmqv.Scrubbed after.details.ecmqv
    | _ => True

@[simp]
theorem TpmtEccScheme.ffiDataZeroize_scrubbed (self : TpmtEccScheme) :
    self.Scrubbed tables (self.ffiDataZeroize tables) := by
  cases decoded : tables.eccSchemeAlgorithm self.scheme with
  | none => simp [Scrubbed, ffiDataZeroize, decoded]
  | some algorithm =>
    cases algorithm <;> simp [Scrubbed, ffiDataZeroize, decoded, zeroizeDetails]

def TpmtKdfScheme.Scrubbed (original after : TpmtKdfScheme) : Prop :=
  after.scheme = 0 ∧
    match tables.keyDerivationFunction original.scheme with
    | some .null | none => True
    | some _ => original.details.Scrubbed after.details

@[simp]
theorem TpmtKdfScheme.ffiDataZeroize_scrubbed (self : TpmtKdfScheme) :
    self.Scrubbed tables (self.ffiDataZeroize tables) := by
  cases decoded : tables.keyDerivationFunction self.scheme with
  | none => simp [Scrubbed, ffiDataZeroize, decoded]
  | some algorithm =>
    cases algorithm <;> simp [Scrubbed, ffiDataZeroize, decoded, zeroizeDetails]

def TpmsKeyedHashParms.Scrubbed (original after : TpmsKeyedHashParms) : Prop :=
  original.scheme.Scrubbed tables after.scheme

@[simp]
theorem TpmsKeyedHashParms.ffiDataZeroize_scrubbed (self : TpmsKeyedHashParms) :
    self.Scrubbed tables (self.ffiDataZeroize tables) :=
  self.scheme.ffiDataZeroize_scrubbed tables

def TpmsSymcipherParms.Scrubbed (original after : TpmsSymcipherParms) : Prop :=
  original.sym.Scrubbed tables after.sym

@[simp]
theorem TpmsSymcipherParms.ffiDataZeroize_scrubbed (self : TpmsSymcipherParms) :
    self.Scrubbed tables (self.ffiDataZeroize tables) :=
  self.sym.ffiDataZeroize_scrubbed tables

def TpmsRsaParms.Scrubbed (original after : TpmsRsaParms) : Prop :=
  original.symmetric.Scrubbed tables after.symmetric ∧
    original.scheme.Scrubbed tables after.scheme ∧ after.keyBits = 0 ∧ after.exponent = 0

@[simp]
theorem TpmsRsaParms.ffiDataZeroize_scrubbed (self : TpmsRsaParms) :
    self.Scrubbed tables (self.ffiDataZeroize tables) :=
  ⟨self.symmetric.ffiDataZeroize_scrubbed tables, self.scheme.ffiDataZeroize_scrubbed tables,
    rfl, rfl⟩

def TpmsEccParms.Scrubbed (original after : TpmsEccParms) : Prop :=
  original.symmetric.Scrubbed tables after.symmetric ∧
    original.scheme.Scrubbed tables after.scheme ∧ after.curveID = 0 ∧
    original.kdf.Scrubbed tables after.kdf

@[simp]
theorem TpmsEccParms.ffiDataZeroize_scrubbed (self : TpmsEccParms) :
    self.Scrubbed tables (self.ffiDataZeroize tables) :=
  ⟨self.symmetric.ffiDataZeroize_scrubbed tables, self.scheme.ffiDataZeroize_scrubbed tables,
    rfl, self.kdf.ffiDataZeroize_scrubbed tables⟩

/-- The selector and the fields outside the unions are `0`, and the members of `parameters`
and `unique` that the original `type_` selects are scrubbed. -/
def TpmtPublic.Scrubbed (original after : TpmtPublic) : Prop :=
  after.type_ = 0 ∧ after.objectAttributes = 0 ∧ after.nameAlg = 0 ∧
    original.authPolicy.Scrubbed after.authPolicy ∧
    match tables.publicAlgorithm original.type_ with
    | some .rsa =>
      original.parameters.rsaDetail.Scrubbed tables after.parameters.rsaDetail ∧
        original.unique.rsa.Scrubbed after.unique.rsa
    | some .keyedHash =>
      original.parameters.keyedHashDetail.Scrubbed tables after.parameters.keyedHashDetail ∧
        original.unique.keyedHash.Scrubbed after.unique.keyedHash
    | some .ecc =>
      original.parameters.eccDetail.Scrubbed tables after.parameters.eccDetail ∧
        original.unique.ecc.Scrubbed after.unique.ecc
    | some .symCipher =>
      original.parameters.symDetail.Scrubbed tables after.parameters.symDetail ∧
        original.unique.sym.Scrubbed after.unique.sym
    | none => True

theorem TpmtPublic.ffiDataZeroize_scrubbed (self : TpmtPublic)
    (known : (tables.publicAlgorithm self.type_).isSome) :
    self.Scrubbed tables (self.ffiDataZeroize tables) := by
  obtain ⟨algorithm, decoded⟩ := Option.isSome_iff_exists.mp known
  cases algorithm <;> simp [Scrubbed, ffiDataZeroize, zeroizeArea, decoded]

def Tpm2bPublic.Scrubbed (original after : Tpm2bPublic) : Prop :=
  after.size = 0 ∧ original.publicArea.Scrubbed tables after.publicArea

/-! ## Selectors that decode -/

def TpmtSymDefObject.decodes (self : TpmtSymDefObject) : Bool :=
  (tables.symmetricObject self.algorithm).isSome

def TpmtKeyedHashScheme.decodes (self : TpmtKeyedHashScheme) : Bool :=
  (tables.keyedHashSchemeAlgorithm self.scheme).isSome

def TpmtRsaScheme.decodes (self : TpmtRsaScheme) : Bool :=
  (tables.rsaSchemeAlgorithm self.scheme).isSome

def TpmtEccScheme.decodes (self : TpmtEccScheme) : Bool :=
  (tables.eccSchemeAlgorithm self.scheme).isSome

def TpmtKdfScheme.decodes (self : TpmtKdfScheme) : Bool :=
  (tables.keyDerivationFunction self.scheme).isSome

def TpmsKeyedHashParms.decodes (self : TpmsKeyedHashParms) : Bool :=
  self.scheme.decodes tables

def TpmsSymcipherParms.decodes (self : TpmsSymcipherParms) : Bool :=
  self.sym.decodes tables

def TpmsRsaParms.decodes (self : TpmsRsaParms) : Bool :=
  self.symmetric.decodes tables && self.scheme.decodes tables

def TpmsEccParms.decodes (self : TpmsEccParms) : Bool :=
  self.symmetric.decodes tables && self.scheme.decodes tables && self.kdf.decodes tables

/-- `type_` decodes, and so does every selector inside the member of `parameters` it
selects. -/
def TpmtPublic.decodes (self : TpmtPublic) : Bool :=
  match tables.publicAlgorithm self.type_ with
  | some .rsa => self.parameters.rsaDetail.decodes tables
  | some .keyedHash => self.parameters.keyedHashDetail.decodes tables
  | some .ecc => self.parameters.eccDetail.decodes tables
  | some .symCipher => self.parameters.symDetail.decodes tables
  | none => false

def Tpm2bPublic.decodes (self : Tpm2bPublic) : Bool :=
  self.publicArea.decodes tables

theorem TpmtPublic.known_of_decodes {self : TpmtPublic} (decodes : self.decodes tables) :
    (tables.publicAlgorithm self.type_).isSome := by
  unfold TpmtPublic.decodes at decodes
  split at decodes <;> simp_all

theorem Tpm2bPublic.ffiDataZeroize_scrubbed (self : Tpm2bPublic) (decodes : self.decodes tables) :
    self.Scrubbed tables (self.ffiDataZeroize tables) :=
  ⟨rfl, self.publicArea.ffiDataZeroize_scrubbed tables (TpmtPublic.known_of_decodes tables decodes)⟩

/-! ## Unknown selectors -/

/-- `TPMT_PUBLIC` whose `type_` does not decode comes back unchanged: `type_`,
`objectAttributes`, `nameAlg` and `authPolicy` keep their contents. -/
theorem TpmtPublic.ffiDataZeroize_of_unknown (self : TpmtPublic)
    (unknown : tables.publicAlgorithm self.type_ = none) :
    self.ffiDataZeroize tables = self :=
  zeroizeSelected_none unknown self

end Tagged

/-- A `TPMT_PUBLIC` with the reserved selector `0x0004` (`TPM2_ALG_SHA1` is no public
algorithm), attributes, a name algorithm and a policy digest. -/
def reservedTypePublic : TpmtPublic :=
  { (default : TpmtPublic) with
    type_ := 0x0004, nameAlg := 0x000B, objectAttributes := 0x00060072
    authPolicy := ⟨2, [0x5A, 0xA5]⟩ }

/-- At the reserved selector `0x0004`, `TPMT_RSA_SCHEME` zeroizes its selector, but
`TPMT_PUBLIC` keeps `type_`, `objectAttributes`, `nameAlg` and `authPolicy` as they were. -/
theorem ffiDataZeroize_reserved_public_type :
    AlgorithmTables.tpm.publicAlgorithm 0x0004 = none ∧
      reservedTypePublic.ffiDataZeroize .tpm = reservedTypePublic ∧
      AlgorithmTables.tpm.rsaSchemeAlgorithm 0x0004 = none ∧
      (TpmtRsaScheme.ffiDataZeroize .tpm ⟨0x0004, default⟩).scheme = 0 :=
  ⟨rfl, rfl, rfl, rfl⟩

/-! ## Every implementor -/

/-- The implementors of `FfiDataZeroize`.  The fifteen byte-buffer `TPM2B` types share one
layout and one zeroizer, as do the four tickets. -/
inductive FfiType
  | tpm2bDigest
  | tpm2bData
  | tpm2bEccParameter
  | tpm2bEncryptedSecret
  | tpm2bIdObject
  | tpm2bIv
  | tpm2bMaxBuffer
  | tpm2bMaxNvBuffer
  | tpm2bPrivate
  | tpm2bPrivateKeyRsa
  | tpm2bPrivateVendorSpecific
  | tpm2bPublicKeyRsa
  | tpm2bSensitiveData
  | tpm2bSymKey
  | tpm2bName
  | tpm2bCreationData
  | tpm2bSensitiveCreate
  | tpm2bPublic
  | tpmsSensitiveCreate
  | tpmsCreationData
  | tpmsPcrSelection
  | tpmsSchemeHash
  | tpmsSchemeXor
  | tpmsSchemeEcdaa
  | tpmsKeyedHashParms
  | tpmsSymcipherParms
  | tpmsEccParms
  | tpmsRsaParms
  | tpmsEccPoint
  | tpmlPcrSelection
  | tpmtSymDefObject
  | tpmtPublic
  | tpmtKeyedHashScheme
  | tpmtRsaScheme
  | tpmtEccScheme
  | tpmtKdfScheme
  | tpmtTkCreation
  | tpmtTkVerified
  | tpmtTkAuth
  | tpmtTkHashcheck
  deriving DecidableEq, Repr

namespace FfiType

/-- The structure each implementor is. -/
def denote : FfiType → Type
  | tpm2bDigest => Tpm2bDigest
  | tpm2bData => Tpm2bData
  | tpm2bEccParameter => Tpm2bEccParameter
  | tpm2bEncryptedSecret => Tpm2bEncryptedSecret
  | tpm2bIdObject => Tpm2bIdObject
  | tpm2bIv => Tpm2bIv
  | tpm2bMaxBuffer => Tpm2bMaxBuffer
  | tpm2bMaxNvBuffer => Tpm2bMaxNvBuffer
  | tpm2bPrivate => Tpm2bPrivate
  | tpm2bPrivateKeyRsa => Tpm2bPrivateKeyRsa
  | tpm2bPrivateVendorSpecific => Tpm2bPrivateVendorSpecific
  | tpm2bPublicKeyRsa => Tpm2bPublicKeyRsa
  | tpm2bSensitiveData => Tpm2bSensitiveData
  | tpm2bSymKey => Tpm2bSymKey
  | tpm2bName => Tpm2bName
  | tpm2bCreationData => Tpm2bCreationData
  | tpm2bSensitiveCreate => Tpm2bSensitiveCreate
  | tpm2bPublic => Tpm2bPublic
  | tpmsSensitiveCreate => TpmsSensitiveCreate
  | tpmsCreationData => TpmsCreationData
  | tpmsPcrSelection => TpmsPcrSelection
  | tpmsSchemeHash => TpmsSchemeHash
  | tpmsSchemeXor => TpmsSchemeXor
  | tpmsSchemeEcdaa => TpmsSchemeEcdaa
  | tpmsKeyedHashParms => TpmsKeyedHashParms
  | tpmsSymcipherParms => TpmsSymcipherParms
  | tpmsEccParms => TpmsEccParms
  | tpmsRsaParms => TpmsRsaParms
  | tpmsEccPoint => TpmsEccPoint
  | tpmlPcrSelection => TpmlPcrSelection
  | tpmtSymDefObject => TpmtSymDefObject
  | tpmtPublic => TpmtPublic
  | tpmtKeyedHashScheme => TpmtKeyedHashScheme
  | tpmtRsaScheme => TpmtRsaScheme
  | tpmtEccScheme => TpmtEccScheme
  | tpmtKdfScheme => TpmtKdfScheme
  | tpmtTkCreation => TpmtTkCreation
  | tpmtTkVerified => TpmtTkVerified
  | tpmtTkAuth => TpmtTkAuth
  | tpmtTkHashcheck => TpmtTkHashcheck

variable (tables : AlgorithmTables)

/-- The implementor's `ffi_data_zeroize`. -/
def ffiDataZeroize : (type : FfiType) → type.denote → type.denote
  | tpm2bDigest => Tpm2bBuffer.ffiDataZeroize
  | tpm2bData => Tpm2bBuffer.ffiDataZeroize
  | tpm2bEccParameter => Tpm2bBuffer.ffiDataZeroize
  | tpm2bEncryptedSecret => Tpm2bBuffer.ffiDataZeroize
  | tpm2bIdObject => Tpm2bBuffer.ffiDataZeroize
  | tpm2bIv => Tpm2bBuffer.ffiDataZeroize
  | tpm2bMaxBuffer => Tpm2bBuffer.ffiDataZeroize
  | tpm2bMaxNvBuffer => Tpm2bBuffer.ffiDataZeroize
  | tpm2bPrivate => Tpm2bBuffer.ffiDataZeroize
  | tpm2bPrivateKeyRsa => Tpm2bBuffer.ffiDataZeroize
  | tpm2bPrivateVendorSpecific => Tpm2bBuffer.ffiDataZeroize
  | tpm2bPublicKeyRsa => Tpm2bBuffer.ffiDataZeroize
  | tpm2bSensitiveData => Tpm2bBuffer.ffiDataZeroize
  | tpm2bSymKey => Tpm2bBuffer.ffiDataZeroize
  | tpm2bName => Tpm2bBuffer.ffiDataZeroize
  | tpm2bCreationData => Tpm2bCreationData.ffiDataZeroize
  | tpm2bSensitiveCreate => Tpm2bSensitiveCreate.ffiDataZeroize
  | tpm2bPublic => Tpm2bPublic.ffiDataZeroize tables
  | tpmsSensitiveCreate => TpmsSensitiveCreate.ffiDataZeroize
  | tpmsCreationData => TpmsCreationData.ffiDataZeroize
  | tpmsPcrSelection => TpmsPcrSelection.ffiDataZeroize
  | tpmsSchemeHash => TpmsSchemeHash.ffiDataZeroize
  | tpmsSchemeXor => TpmsSchemeXor.ffiDataZeroize
  | tpmsSchemeEcdaa => TpmsSchemeEcdaa.ffiDataZeroize
  | tpmsKeyedHashParms => TpmsKeyedHashParms.ffiDataZeroize tables
  | tpmsSymcipherParms => TpmsSymcipherParms.ffiDataZeroize tables
  | tpmsEccParms => TpmsEccParms.ffiDataZeroize tables
  | tpmsRsaParms => TpmsRsaParms.ffiDataZeroize tables
  | tpmsEccPoint => TpmsEccPoint.ffiDataZeroize
  | tpmlPcrSelection => TpmlPcrSelection.ffiDataZeroize
  | tpmtSymDefObject => TpmtSymDefObject.ffiDataZeroize tables
  | tpmtPublic => TpmtPublic.ffiDataZeroize tables
  | tpmtKeyedHashScheme => TpmtKeyedHashScheme.ffiDataZeroize tables
  | tpmtRsaScheme => TpmtRsaScheme.ffiDataZeroize tables
  | tpmtEccScheme => TpmtEccScheme.ffiDataZeroize tables
  | tpmtKdfScheme => TpmtKdfScheme.ffiDataZeroize tables
  | tpmtTkCreation => TpmtTk.ffiDataZeroize
  | tpmtTkVerified => TpmtTk.ffiDataZeroize
  | tpmtTkAuth => TpmtTk.ffiDataZeroize
  | tpmtTkHashcheck => TpmtTk.ffiDataZeroize

/-- Every selector met while traversing a value decodes; types without a selector always
qualify. -/
def decodes : (type : FfiType) → type.denote → Bool
  | tpm2bPublic => Tpm2bPublic.decodes tables
  | tpmsKeyedHashParms => TpmsKeyedHashParms.decodes tables
  | tpmsSymcipherParms => TpmsSymcipherParms.decodes tables
  | tpmsEccParms => TpmsEccParms.decodes tables
  | tpmsRsaParms => TpmsRsaParms.decodes tables
  | tpmtSymDefObject => TpmtSymDefObject.decodes tables
  | tpmtPublic => TpmtPublic.decodes tables
  | tpmtKeyedHashScheme => TpmtKeyedHashScheme.decodes tables
  | tpmtRsaScheme => TpmtRsaScheme.decodes tables
  | tpmtEccScheme => TpmtEccScheme.decodes tables
  | tpmtKdfScheme => TpmtKdfScheme.decodes tables
  | _ => fun _ => true

/-- The implementor's `Scrubbed`. -/
def Scrubbed : (type : FfiType) → type.denote → type.denote → Prop
  | tpm2bDigest => Tpm2bBuffer.Scrubbed
  | tpm2bData => Tpm2bBuffer.Scrubbed
  | tpm2bEccParameter => Tpm2bBuffer.Scrubbed
  | tpm2bEncryptedSecret => Tpm2bBuffer.Scrubbed
  | tpm2bIdObject => Tpm2bBuffer.Scrubbed
  | tpm2bIv => Tpm2bBuffer.Scrubbed
  | tpm2bMaxBuffer => Tpm2bBuffer.Scrubbed
  | tpm2bMaxNvBuffer => Tpm2bBuffer.Scrubbed
  | tpm2bPrivate => Tpm2bBuffer.Scrubbed
  | tpm2bPrivateKeyRsa => Tpm2bBuffer.Scrubbed
  | tpm2bPrivateVendorSpecific => Tpm2bBuffer.Scrubbed
  | tpm2bPublicKeyRsa => Tpm2bBuffer.Scrubbed
  | tpm2bSensitiveData => Tpm2bBuffer.Scrubbed
  | tpm2bSymKey => Tpm2bBuffer.Scrubbed
  | tpm2bName => Tpm2bBuffer.Scrubbed
  | tpm2bCreationData => Tpm2bCreationData.Scrubbed
  | tpm2bSensitiveCreate => Tpm2bSensitiveCreate.Scrubbed
  | tpm2bPublic => Tpm2bPublic.Scrubbed tables
  | tpmsSensitiveCreate => TpmsSensitiveCreate.Scrubbed
  | tpmsCreationData => TpmsCreationData.Scrubbed
  | tpmsPcrSelection => TpmsPcrSelection.Scrubbed
  | tpmsSchemeHash => TpmsSchemeHash.Scrubbed
  | tpmsSchemeXor => TpmsSchemeXor.Scrubbed
  | tpmsSchemeEcdaa => TpmsSchemeEcdaa.Scrubbed
  | tpmsKeyedHashParms => TpmsKeyedHashParms.Scrubbed tables
  | tpmsSymcipherParms => TpmsSymcipherParms.Scrubbed tables
  | tpmsEccParms => TpmsEccParms.Scrubbed tables
  | tpmsRsaParms => TpmsRsaParms.Scrubbed tables
  | tpmsEccPoint => TpmsEccPoint.Scrubbed
  | tpmlPcrSelection => TpmlPcrSelection.Scrubbed
  | tpmtSymDefObject => TpmtSymDefObject.Scrubbed tables
  | tpmtPublic => TpmtPublic.Scrubbed tables
  | tpmtKeyedHashScheme => TpmtKeyedHashScheme.Scrubbed tables
  | tpmtRsaScheme => TpmtRsaScheme.Scrubbed tables
  | tpmtEccScheme => TpmtEccScheme.Scrubbed tables
  | tpmtKdfScheme => TpmtKdfScheme.Scrubbed tables
  | tpmtTkCreation => TpmtTk.Scrubbed
  | tpmtTkVerified => TpmtTk.Scrubbed
  | tpmtTkAuth => TpmtTk.Scrubbed
  | tpmtTkHashcheck => TpmtTk.Scrubbed

end FfiType

/-- Every implementor of `FfiDataZeroize` scrubs every value whose selectors decode: length
prefixes, selectors and scalars are `0`, every backing array is zero over its whole length,
and the union members the original selectors select are scrubbed at every depth. -/
theorem ffiDataZeroize_scrubs (tables : AlgorithmTables) (type : FfiType) (value : type.denote)
    (decodes : type.decodes tables value) :
    type.Scrubbed tables value (type.ffiDataZeroize tables value) := by
  cases type
  case tpm2bPublic => exact Tpm2bPublic.ffiDataZeroize_scrubbed tables value decodes
  case tpmtPublic =>
    exact TpmtPublic.ffiDataZeroize_scrubbed tables value (TpmtPublic.known_of_decodes tables decodes)
  all_goals simp [FfiType.Scrubbed, FfiType.ffiDataZeroize]

/-- An RSA public area with an AES-128-CFB symmetric definition and an RSASSA scheme. -/
def rsaPublic : TpmtPublic :=
  { (default : TpmtPublic) with
    type_ := 0x0001, nameAlg := 0x000B, objectAttributes := 0x00060072
    parameters.rsaDetail :=
      { symmetric := ⟨0x0006, 128, 0x0043⟩, scheme := ⟨0x0014, default⟩, keyBits := 2048
        exponent := 65537 }
    unique.rsa := ⟨3, [1, 2, 3]⟩ }

theorem ffiDataZeroize_scrubs_rsaPublic :
    FfiType.tpmtPublic.decodes .tpm rsaPublic ∧
      FfiType.tpmtPublic.Scrubbed .tpm rsaPublic (FfiType.tpmtPublic.ffiDataZeroize .tpm rsaPublic) :=
  ⟨rfl, ffiDataZeroize_scrubs .tpm .tpmtPublic rsaPublic rfl⟩

/-- `Tdes` decodes and is not `Null`, yet its key size and mode survive. -/
theorem tdes_keyBits_mode_survive :
    AlgorithmTables.tpm.symmetricObject 0x0003 = some .tdes ∧
      TpmtSymDefObject.ffiDataZeroize .tpm ⟨0x0003, 192, 0x0043⟩ = ⟨0, 192, 0x0043⟩ :=
  ⟨rfl, rfl⟩

end TssEsapi
