import Mathlib.Data.List.Basic

/-!
# Algorithm selectors of the tagged unions

Every tagged union zeroized in `ffi/data_zeroize.rs` is dispatched on a 16-bit algorithm
identifier, decoded by a `try_from` conversion into one of six interface enums.  The
conversions live in the module `interface_types::algorithm`, not in `ffi/`, so the zeroizers take
them as a parameter: `AlgorithmTables` bundles one decoder per enum, and every result proved
about the zeroizers holds for every choice of tables.  `AlgorithmTables.tpm` is the table over
the `TPM2_ALG_*` identifiers, used to evaluate the zeroizers on concrete inputs.
-/

namespace TssEsapi

/-- `PublicAlgorithm`: the selector of `TPMT_PUBLIC`. -/
inductive PublicAlgorithm
  | rsa
  | keyedHash
  | ecc
  | symCipher
  deriving DecidableEq, Repr

/-- `SymmetricObject`: the selector of `TPMT_SYM_DEF_OBJECT`. -/
inductive SymmetricObject
  | tdes
  | aes
  | sm4
  | camellia
  | null
  deriving DecidableEq, Repr

/-- `KeyedHashSchemeAlgorithm`: the selector of `TPMT_KEYEDHASH_SCHEME`. -/
inductive KeyedHashSchemeAlgorithm
  | hmac
  | xor
  | null
  deriving DecidableEq, Repr

/-- `RsaSchemeAlgorithm`: the selector of `TPMT_RSA_SCHEME`. -/
inductive RsaSchemeAlgorithm
  | rsaSsa
  | rsaEs
  | rsaPss
  | oaep
  | null
  deriving DecidableEq, Repr

/-- `EccSchemeAlgorithm`: the selector of `TPMT_ECC_SCHEME`. -/
inductive EccSchemeAlgorithm
  | ecDsa
  | ecDh
  | ecDaa
  | sm2
  | ecSchnorr
  | ecMqv
  | null
  deriving DecidableEq, Repr

/-- `KeyDerivationFunction`: the selector of `TPMT_KDF_SCHEME`. -/
inductive KeyDerivationFunction
  | kdf1Sp800_56a
  | kdf2
  | kdf1Sp800_108
  | mgf1
  | null
  deriving DecidableEq, Repr

/-- The six `try_from` conversions the zeroizers dispatch on; `none` is the `Err` of a
reserved or unrecognised identifier. -/
structure AlgorithmTables where
  publicAlgorithm : UInt16 → Option PublicAlgorithm
  symmetricObject : UInt16 → Option SymmetricObject
  keyedHashSchemeAlgorithm : UInt16 → Option KeyedHashSchemeAlgorithm
  rsaSchemeAlgorithm : UInt16 → Option RsaSchemeAlgorithm
  eccSchemeAlgorithm : UInt16 → Option EccSchemeAlgorithm
  keyDerivationFunction : UInt16 → Option KeyDerivationFunction

namespace AlgorithmTables

/-- `PublicAlgorithm::try_from` over `TPM2_ALG_RSA`, `_KEYEDHASH`, `_ECC` and `_SYMCIPHER`. -/
def tpmPublicAlgorithm : UInt16 → Option PublicAlgorithm
  | 0x0001 => some .rsa
  | 0x0008 => some .keyedHash
  | 0x0023 => some .ecc
  | 0x0025 => some .symCipher
  | _ => none

/-- `SymmetricObject::try_from` over `TPM2_ALG_TDES`, `_AES`, `_SM4`, `_CAMELLIA` and
`_NULL`. -/
def tpmSymmetricObject : UInt16 → Option SymmetricObject
  | 0x0003 => some .tdes
  | 0x0006 => some .aes
  | 0x0013 => some .sm4
  | 0x0026 => some .camellia
  | 0x0010 => some .null
  | _ => none

/-- `KeyedHashSchemeAlgorithm::try_from` over `TPM2_ALG_HMAC`, `_XOR` and `_NULL`. -/
def tpmKeyedHashSchemeAlgorithm : UInt16 → Option KeyedHashSchemeAlgorithm
  | 0x0005 => some .hmac
  | 0x000A => some .xor
  | 0x0010 => some .null
  | _ => none

/-- `RsaSchemeAlgorithm::try_from` over `TPM2_ALG_RSASSA`, `_RSAES`, `_RSAPSS`, `_OAEP` and
`_NULL`. -/
def tpmRsaSchemeAlgorithm : UInt16 → Option RsaSchemeAlgorithm
  | 0x0014 => some .rsaSsa
  | 0x0015 => some .rsaEs
  | 0x0016 => some .rsaPss
  | 0x0017 => some .oaep
  | 0x0010 => some .null
  | _ => none

/-- `EccSchemeAlgorithm::try_from` over the elliptic-curve schemes and `TPM2_ALG_NULL`. -/
def tpmEccSchemeAlgorithm : UInt16 → Option EccSchemeAlgorithm
  | 0x0018 => some .ecDsa
  | 0x0019 => some .ecDh
  | 0x001A => some .ecDaa
  | 0x001B => some .sm2
  | 0x001C => some .ecSchnorr
  | 0x001D => some .ecMqv
  | 0x0010 => some .null
  | _ => none

/-- `KeyDerivationFunction::try_from` over the key derivation functions and
`TPM2_ALG_NULL`. -/
def tpmKeyDerivationFunction : UInt16 → Option KeyDerivationFunction
  | 0x0020 => some .kdf1Sp800_56a
  | 0x0021 => some .kdf2
  | 0x0022 => some .kdf1Sp800_108
  | 0x0007 => some .mgf1
  | 0x0010 => some .null
  | _ => none

/-- The conversions over the `TPM2_ALG_*` identifiers. -/
def tpm : AlgorithmTables where
  publicAlgorithm := tpmPublicAlgorithm
  symmetricObject := tpmSymmetricObject
  keyedHashSchemeAlgorithm := tpmKeyedHashSchemeAlgorithm
  rsaSchemeAlgorithm := tpmRsaSchemeAlgorithm
  eccSchemeAlgorithm := tpmEccSchemeAlgorithm
  keyDerivationFunction := tpmKeyDerivationFunction

end AlgorithmTables

end TssEsapi
