import BraleMiden.Lib.Bytes
import BraleMiden.Miden.Types

/-!
# ECDSA K256 keys and signatures

What the signing code uses of the SDK: keys, their commitments, signatures, the hash, and the key store of the multisig
client. The functions are those of other packages, so they are parameters (`EcdsaK256Keccak`); `Parses`, `RecoveryIds`
and `Lawful` say what the code relies on.
-/

namespace BraleMiden

open Bytes

/-! ## Values -/

/-- `PublicKeyCommitment`: the commitment by which a key is looked up. -/
structure PublicKeyCommitment where
  word : Word
deriving DecidableEq

/-- `ecdsa_k256_keccak::Signature` -/
structure Signature where
  r : Vector UInt8 32
  s : Vector UInt8 32
  v : UInt8
deriving DecidableEq

/-- The wire form of a signature, `r[32] || s[32] || v[1]`. -/
def Signature.bytes (sig : Signature) : Vector UInt8 65 := (sig.r ++ sig.s).push sig.v

/-- `<[u8; 32]>::from(word)`: the elements one after the other, eight bytes each, least significant byte first. -/
def wordBytes (w : Word) : Vector UInt8 32 :=
  Vector.ofFn fun i =>
    have : i.val / 8 < 4 := by omega
    UInt8.ofNat (w[i.val / 8].val / 256 ^ (i.val % 8))

/-- `SigningInputs`, by the commitment that is signed. -/
structure SigningInputs where
  toCommitment : Word

/-! ## The SDK's functions -/

/-- Keys and signing, as `miden_protocol::crypto`, `sha3` and `miden_multisig_client` provide them. -/
structure EcdsaK256Keccak where
  SecretKey : Type
  PublicKey : Type
  /-- `secret_key.public_key()` -/
  publicKey : SecretKey → PublicKey
  /-- `public_key.to_commitment()` -/
  toCommitment : PublicKey → Word
  /-- `secret_key.sign(word)` -/
  sign : SecretKey → Word → Signature
  /-- `secret_key.sign_prehash(digest)` -/
  signPrehash : SecretKey → Vector UInt8 32 → Signature
  /-- `Signature::from_sec1_bytes_and_recovery_id(bytes, v)` -/
  fromSec1BytesAndRecoveryId : Vector UInt8 64 → UInt8 → Except String Signature
  /-- `Keccak256` of 32 bytes -/
  keccak256 : Vector UInt8 32 → Vector UInt8 32
  /-- The `Debug` text of a commitment -/
  debugCommitment : PublicKeyCommitment → String
  /-- `EcdsaPsmKeyStore::new(key).sign_hex(word)` -/
  psmSignHex : SecretKey → Word → String

namespace EcdsaK256Keccak

variable (K : EcdsaK256Keccak)

/-- `PublicKeyCommitment::from(secret_key.public_key().to_commitment())` -/
def commitmentOf (sk : K.SecretKey) : PublicKeyCommitment := ⟨K.toCommitment (K.publicKey sk)⟩

/-- With a recovery id of at most 3, parsing gives the signature with the given parts. -/
structure Parses : Prop where
  accepts : ∀ (r s : Vector UInt8 32) (v : UInt8), v ≤ 3 → K.fromSec1BytesAndRecoveryId (r ++ s) v = .ok ⟨r, s, v⟩

/-- A larger recovery id is refused. -/
structure RecoveryIds : Prop extends K.Parses where
  refuses : ∀ (rs : Vector UInt8 64) (v : UInt8), 3 < v → ∃ e, K.fromSec1BytesAndRecoveryId rs v = .error e

/-- What the signing paths rely on. -/
structure Lawful : Prop extends K.Parses where
  /-- Signing a word is signing the hash of its bytes. -/
  sign_eq : ∀ sk w, K.sign sk w = K.signPrehash sk (K.keccak256 (wordBytes w))
  /-- Signatures are made with a recovery id that parsing accepts. -/
  recoveryId_le : ∀ sk d, (K.signPrehash sk d).v ≤ 3
  /-- Distinct keys have distinct commitments. -/
  commitment_injective : ∀ {sk sk'}, K.commitmentOf sk = K.commitmentOf sk' → sk = sk'
  /-- The key store of the multisig client gives the hex of the wire form. -/
  psmSignHex_eq : ∀ sk w, K.psmSignHex sk w = "0x" ++ hexEncode (K.sign sk w).bytes

end EcdsaK256Keccak

/-! ## The test vector -/

namespace TestVector

/-- The key of the test vector, and another one. -/
inductive Key
  | testOnly
  | other

/-- The commitment that is signed. -/
def commitment : Word := #v[0xdeadbeef00000001, 0xdeadbeef00000002, 0xdeadbeef00000003, 0xdeadbeef00000004]

/-- The Keccak256 digest of its bytes. -/
def digest : Vector UInt8 32 :=
  #v[0x3a, 0x74, 0xbb, 0x6f, 0x13, 0xf3, 0x69, 0x53, 0x9a, 0x15, 0xf3, 0x3b, 0xe7, 0xc1, 0xf8, 0x1a,
    0xd3, 0x4a, 0xa8, 0x2f, 0x3b, 0x6d, 0x7f, 0x54, 0xbd, 0x2d, 0x8a, 0xfe, 0x0a, 0xac, 0xc9, 0x0a]

/-- The signature of the digest. -/
def signature : Signature where
  r := #v[0x87, 0xc2, 0xc5, 0x84, 0xc7, 0x73, 0x35, 0x7d, 0x5d, 0x4d, 0x49, 0x88, 0x09, 0xa0, 0xaf, 0x5c,
    0xa6, 0xba, 0xbc, 0x7e, 0x0b, 0x8c, 0x8b, 0x3e, 0x4b, 0xb7, 0x08, 0x66, 0xab, 0xc1, 0xe3, 0xa9]
  s := #v[0x34, 0xbd, 0x1d, 0xf7, 0x71, 0x5a, 0x93, 0xff, 0x25, 0xa4, 0x52, 0x25, 0xe6, 0xa7, 0x9d, 0x10,
    0xa6, 0xc7, 0x6a, 0x23, 0x4b, 0x9c, 0x5b, 0x7d, 0x46, 0x40, 0xaf, 0xe1, 0x2d, 0x82, 0x5e, 0xcf]
  v := 1

/-- The bytes of the commitment are those of the test vector. -/
example : wordBytes commitment =
    #v[0x01, 0x00, 0x00, 0x00, 0xef, 0xbe, 0xad, 0xde, 0x02, 0x00, 0x00, 0x00, 0xef, 0xbe, 0xad, 0xde,
      0x03, 0x00, 0x00, 0x00, 0xef, 0xbe, 0xad, 0xde, 0x04, 0x00, 0x00, 0x00, 0xef, 0xbe, 0xad, 0xde] := by decide

/-- The hash on the test vector. Other inputs are passed through. -/
def keccak256 (m : Vector UInt8 32) : Vector UInt8 32 := if m = wordBytes commitment then digest else m

/-- The commitments of the keys. -/
def keyCommitment : Key → Word
  | .testOnly => #v[4643914429727197305, 17938415812757176126, 1005359790276176491, 2558399003173972745]
  | .other => #v[1, 2, 3, 4]

/-- The signatures of the keys: that of the test vector, and made up ones. -/
def signDigest : Key → Vector UInt8 32 → Signature
  | .testOnly, d => if d = digest then signature else ⟨d, d, 0⟩
  | .other, d => ⟨d, d, 1⟩

theorem signDigest_v_le (sk : Key) (d : Vector UInt8 32) : (signDigest sk d).v ≤ 3 := by
  cases sk with
  | testOnly =>
    simp only [signDigest]
    split
    · decide
    · show (0 : UInt8) ≤ 3
      decide
  | other =>
    show (1 : UInt8) ≤ 3
    decide

/-- The SDK on the test vector. -/
def sdk : EcdsaK256Keccak where
  SecretKey := Key
  PublicKey := Key
  publicKey sk := sk
  toCommitment := keyCommitment
  sign sk w := signDigest sk (keccak256 (wordBytes w))
  signPrehash := signDigest
  fromSec1BytesAndRecoveryId rs v :=
    if v ≤ 3 then .ok ⟨slice rs 0 32 (by omega), slice rs 32 32 (by omega), v⟩ else .error "invalid recovery id"
  keccak256 := keccak256
  debugCommitment _ := "PublicKeyCommitment(..)"
  psmSignHex sk w := "0x" ++ hexEncode (signDigest sk (keccak256 (wordBytes w))).bytes

theorem sdk_recoveryIds : sdk.RecoveryIds where
  accepts r s v hv := by
    simp only [sdk, hv, ↓reduceIte]
    rw [slice_append_left (m := 32) (k := 32), slice_append_right (m := 32) (k := 32)]
  refuses rs v hv := ⟨"invalid recovery id", if_neg (UInt8.not_le.2 hv)⟩

theorem sdk_lawful : sdk.Lawful where
  toParses := sdk_recoveryIds.toParses
  sign_eq _ _ := by simp only [sdk]
  recoveryId_le := signDigest_v_le
  commitment_injective := by
    intro sk sk' h
    cases sk with
    | testOnly =>
      cases sk' with
      | testOnly => rfl
      | other => exact absurd h (by decide)
    | other =>
      cases sk' with
      | testOnly => exact absurd h (by decide)
      | other => rfl
  psmSignHex_eq _ _ := by simp only [sdk]

/-- The key of the test vector. -/
def key : sdk.SecretKey := Key.testOnly

/-- The key signs the commitment with the signature of the test vector. -/
theorem sdk_sign : sdk.sign key commitment = signature := by
  simp only [sdk, key, keccak256, signDigest, ↓reduceIte]

end TestVector

end BraleMiden
