import TssEsapi.Ffi.DataZeroizeSpec

/-!
# Zeroizing twice

`ffi_data_zeroize` is a projection: a second call changes nothing.  Byte arrays and scalars are
zero after the first call.  A tagged union's selector is `0` after the first call, and `0` is
`TPM2_ALG_ERROR`, which no `try_from` accepts, so the second call scrubs no union member; the
selector is zeroized again, and the `TPMT_PUBLIC` of a second call keeps its `if let` block
shut.
-/

namespace TssEsapi

/-- No table decodes the selector `0` (`TPM2_ALG_ERROR`). -/
structure AlgorithmTables.RejectsZero (tables : AlgorithmTables) : Prop where
  publicAlgorithm : tables.publicAlgorithm 0 = none
  symmetricObject : tables.symmetricObject 0 = none
  keyedHashSchemeAlgorithm : tables.keyedHashSchemeAlgorithm 0 = none
  rsaSchemeAlgorithm : tables.rsaSchemeAlgorithm 0 = none
  eccSchemeAlgorithm : tables.eccSchemeAlgorithm 0 = none
  keyDerivationFunction : tables.keyDerivationFunction 0 = none

theorem AlgorithmTables.tpm_rejectsZero : AlgorithmTables.tpm.RejectsZero :=
  ⟨rfl, rfl, rfl, rfl, rfl, rfl⟩

@[simp]
theorem zeroizeBytes_zeroizeBytes (bytes : List UInt8) :
    zeroizeBytes (zeroizeBytes bytes) = zeroizeBytes bytes := by
  simp [zeroizeBytes]

/-! ## Types without a selector -/

@[simp]
theorem Tpm2bBuffer.ffiDataZeroize_ffiDataZeroize (self : Tpm2bBuffer) :
    self.ffiDataZeroize.ffiDataZeroize = self.ffiDataZeroize := by
  simp [Tpm2bBuffer.ffiDataZeroize]

@[simp]
theorem TpmsPcrSelection.ffiDataZeroize_ffiDataZeroize (self : TpmsPcrSelection) :
    self.ffiDataZeroize.ffiDataZeroize = self.ffiDataZeroize := by
  simp [TpmsPcrSelection.ffiDataZeroize]

@[simp]
theorem TpmlPcrSelection.ffiDataZeroize_ffiDataZeroize (self : TpmlPcrSelection) :
    self.ffiDataZeroize.ffiDataZeroize = self.ffiDataZeroize := by
  simp [TpmlPcrSelection.ffiDataZeroize, Function.comp_def]

@[simp]
theorem TpmsCreationData.ffiDataZeroize_ffiDataZeroize (self : TpmsCreationData) :
    self.ffiDataZeroize.ffiDataZeroize = self.ffiDataZeroize := by
  simp [TpmsCreationData.ffiDataZeroize]

@[simp]
theorem Tpm2bCreationData.ffiDataZeroize_ffiDataZeroize (self : Tpm2bCreationData) :
    self.ffiDataZeroize.ffiDataZeroize = self.ffiDataZeroize := by
  simp [Tpm2bCreationData.ffiDataZeroize]

@[simp]
theorem TpmsSensitiveCreate.ffiDataZeroize_ffiDataZeroize (self : TpmsSensitiveCreate) :
    self.ffiDataZeroize.ffiDataZeroize = self.ffiDataZeroize := by
  simp [TpmsSensitiveCreate.ffiDataZeroize]

@[simp]
theorem Tpm2bSensitiveCreate.ffiDataZeroize_ffiDataZeroize (self : Tpm2bSensitiveCreate) :
    self.ffiDataZeroize.ffiDataZeroize = self.ffiDataZeroize := by
  simp [Tpm2bSensitiveCreate.ffiDataZeroize]

@[simp]
theorem TpmsSchemeHash.ffiDataZeroize_ffiDataZeroize (self : TpmsSchemeHash) :
    self.ffiDataZeroize.ffiDataZeroize = self.ffiDataZeroize :=
  rfl

@[simp]
theorem TpmsSchemeXor.ffiDataZeroize_ffiDataZeroize (self : TpmsSchemeXor) :
    self.ffiDataZeroize.ffiDataZeroize = self.ffiDataZeroize :=
  rfl

@[simp]
theorem TpmsSchemeEcdaa.ffiDataZeroize_ffiDataZeroize (self : TpmsSchemeEcdaa) :
    self.ffiDataZeroize.ffiDataZeroize = self.ffiDataZeroize :=
  rfl

@[simp]
theorem TpmsEccPoint.ffiDataZeroize_ffiDataZeroize (self : TpmsEccPoint) :
    self.ffiDataZeroize.ffiDataZeroize = self.ffiDataZeroize := by
  simp [TpmsEccPoint.ffiDataZeroize]

@[simp]
theorem TpmtTk.ffiDataZeroize_ffiDataZeroize (self : TpmtTk) :
    self.ffiDataZeroize.ffiDataZeroize = self.ffiDataZeroize := by
  simp [TpmtTk.ffiDataZeroize]

/-! ## Tagged unions: the zeroized selector selects nothing -/

section Tagged

variable {tables : AlgorithmTables} (rejects : tables.RejectsZero)
include rejects

@[simp]
theorem TpmtSymDefObject.ffiDataZeroize_ffiDataZeroize (self : TpmtSymDefObject) :
    (self.ffiDataZeroize tables).ffiDataZeroize tables = self.ffiDataZeroize tables := by
  simp [TpmtSymDefObject.ffiDataZeroize, rejects.symmetricObject]

@[simp]
theorem TpmtKeyedHashScheme.ffiDataZeroize_ffiDataZeroize (self : TpmtKeyedHashScheme) :
    (self.ffiDataZeroize tables).ffiDataZeroize tables = self.ffiDataZeroize tables := by
  simp [TpmtKeyedHashScheme.ffiDataZeroize, rejects.keyedHashSchemeAlgorithm]

@[simp]
theorem TpmtRsaScheme.ffiDataZeroize_ffiDataZeroize (self : TpmtRsaScheme) :
    (self.ffiDataZeroize tables).ffiDataZeroize tables = self.ffiDataZeroize tables := by
  simp [TpmtRsaScheme.ffiDataZeroize, rejects.rsaSchemeAlgorithm]

@[simp]
theorem TpmtEccScheme.ffiDataZeroize_ffiDataZeroize (self : TpmtEccScheme) :
    (self.ffiDataZeroize tables).ffiDataZeroize tables = self.ffiDataZeroize tables := by
  simp [TpmtEccScheme.ffiDataZeroize, rejects.eccSchemeAlgorithm]

@[simp]
theorem TpmtKdfScheme.ffiDataZeroize_ffiDataZeroize (self : TpmtKdfScheme) :
    (self.ffiDataZeroize tables).ffiDataZeroize tables = self.ffiDataZeroize tables := by
  simp [TpmtKdfScheme.ffiDataZeroize, rejects.keyDerivationFunction]

@[simp]
theorem TpmsKeyedHashParms.ffiDataZeroize_ffiDataZeroize (self : TpmsKeyedHashParms) :
    (self.ffiDataZeroize tables).ffiDataZeroize tables = self.ffiDataZeroize tables := by
  simp [TpmsKeyedHashParms.ffiDataZeroize, rejects]

@[simp]
theorem TpmsSymcipherParms.ffiDataZeroize_ffiDataZeroize (self : TpmsSymcipherParms) :
    (self.ffiDataZeroize tables).ffiDataZeroize tables = self.ffiDataZeroize tables := by
  simp [TpmsSymcipherParms.ffiDataZeroize, rejects]

@[simp]
theorem TpmsEccParms.ffiDataZeroize_ffiDataZeroize (self : TpmsEccParms) :
    (self.ffiDataZeroize tables).ffiDataZeroize tables = self.ffiDataZeroize tables := by
  simp [TpmsEccParms.ffiDataZeroize, rejects]

@[simp]
theorem TpmsRsaParms.ffiDataZeroize_ffiDataZeroize (self : TpmsRsaParms) :
    (self.ffiDataZeroize tables).ffiDataZeroize tables = self.ffiDataZeroize tables := by
  simp [TpmsRsaParms.ffiDataZeroize, rejects]

omit rejects in
/-- Every arm of `TPMT_PUBLIC`'s `match` ends with `type_` zeroized. -/
theorem TpmtPublic.zeroizeArea_type (publicAlgorithm : PublicAlgorithm) (self : TpmtPublic) :
    (TpmtPublic.zeroizeArea tables publicAlgorithm self).type_ = 0 := by
  cases publicAlgorithm <;> rfl

@[simp]
theorem TpmtPublic.ffiDataZeroize_ffiDataZeroize (self : TpmtPublic) :
    (self.ffiDataZeroize tables).ffiDataZeroize tables = self.ffiDataZeroize tables := by
  cases decoded : tables.publicAlgorithm self.type_ with
  | none => simp [TpmtPublic.ffiDataZeroize, decoded]
  | some publicAlgorithm =>
    simp only [TpmtPublic.ffiDataZeroize, zeroizeSelected_some decoded]
    rw [zeroizeSelected_none (by rw [TpmtPublic.zeroizeArea_type]; exact rejects.publicAlgorithm)]

@[simp]
theorem Tpm2bPublic.ffiDataZeroize_ffiDataZeroize (self : Tpm2bPublic) :
    (self.ffiDataZeroize tables).ffiDataZeroize tables = self.ffiDataZeroize tables := by
  simp [Tpm2bPublic.ffiDataZeroize, rejects]

end Tagged

/-- For tables that decode no `0` selector, a second `ffi_data_zeroize` of any implementor
changes nothing. -/
theorem ffiDataZeroize_idempotent (tables : AlgorithmTables) (rejects : tables.RejectsZero)
    (type : FfiType) (value : type.denote) :
    type.ffiDataZeroize tables (type.ffiDataZeroize tables value) =
      type.ffiDataZeroize tables value := by
  cases type <;> simp [FfiType.ffiDataZeroize, rejects]

theorem ffiDataZeroize_idempotent_rsaPublic :
    AlgorithmTables.tpm.RejectsZero ∧
      FfiType.tpmtPublic.ffiDataZeroize .tpm (FfiType.tpmtPublic.ffiDataZeroize .tpm rsaPublic) =
        FfiType.tpmtPublic.ffiDataZeroize .tpm rsaPublic :=
  ⟨AlgorithmTables.tpm_rejectsZero,
    ffiDataZeroize_idempotent .tpm AlgorithmTables.tpm_rejectsZero .tpmtPublic rsaPublic⟩

end TssEsapi
