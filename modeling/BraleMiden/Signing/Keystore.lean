import Mathlib.Logic.Function.Basic
import BraleMiden.Signing.Ecdsa

/-!
# The keystore and the external signer

`keystore.rs` and `mock_signer.rs`. `BraleKeystore` wraps the key store on disk; with an external signer it signs
through the signer only, without one it signs with the stored key.

* `getSignature_passthrough`, `getSignature_new`: what the two kinds of keystore answer;
* `parseEcdsaSignature_bytes`: parsing the wire form of a signature gives the signature;
* `signPrehash_registered`, `signPrehash_unknown`: the simulated signer answers for the keys it holds, and only for
  these;
* `new_registerAll_keys`: the keys it holds are exactly the registered ones.
-/

namespace BraleMiden

open Bytes

/-! ## `ExternalSigner` -/

/-- `ExternalSignerError` -/
inductive ExternalSignerError
  | signingFailed (text : String)
  | unavailable (text : String)
  | invalidResponse (text : String)
deriving DecidableEq, Repr

/-- The `Display` text. -/
def ExternalSignerError.display : ExternalSignerError → String
  | .signingFailed t => s!"signing failed: {t}"
  | .unavailable t => s!"signer unavailable: {t}"
  | .invalidResponse t => s!"invalid response: {t}"

/-- `ExternalSigner`: 65 bytes or an error for a key commitment and a digest. -/
structure ExternalSigner where
  signPrehash : PublicKeyCommitment → Vector UInt8 32 → Except ExternalSignerError (Vector UInt8 65)

/-- `AuthenticationError`, as far as the keystore builds it. -/
inductive AuthenticationError
  | other (text : String)
  | otherWithSource (text source : String)
  | unknownPublicKey (commitment : PublicKeyCommitment)
deriving DecidableEq

/-! ## `BraleKeystore` -/

variable {K : EcdsaK256Keccak}

/-- `FilesystemKeyStore`, by what it holds. -/
structure FilesystemKeyStore (K : EcdsaK256Keccak) where
  getKey : PublicKeyCommitment → Except String (Option K.SecretKey)

/-- `BraleKeystore` -/
structure BraleKeystore (K : EcdsaK256Keccak) where
  inner : FilesystemKeyStore K
  signer : Option ExternalSigner

/-- `keccak256_hash_word` -/
def keccak256HashWord (K : EcdsaK256Keccak) (word : Word) : Vector UInt8 32 := K.keccak256 (wordBytes word)

/-- `parse_ecdsa_signature` -/
def parseEcdsaSignature (K : EcdsaK256Keccak) (bytes : Vector UInt8 65) : Except String Signature :=
  let sec1Bytes := copyFromSlice (Vector.replicate 64 0) 0 (slice bytes 0 64 (by omega))
  let v := bytes[64]
  K.fromSec1BytesAndRecoveryId sec1Bytes v

namespace BraleKeystore

/-- `BraleKeystore::new` -/
def new (inner : FilesystemKeyStore K) (signer : ExternalSigner) : BraleKeystore K := ⟨inner, some signer⟩

/-- `BraleKeystore::passthrough` -/
def passthrough (inner : FilesystemKeyStore K) : BraleKeystore K := ⟨inner, none⟩

/-- `get_signature` -/
def getSignature (keystore : BraleKeystore K) (pubKeyCommitment : PublicKeyCommitment) (signingInputs : SigningInputs) :
    Except AuthenticationError Signature :=
  let commitment := signingInputs.toCommitment
  match keystore.signer with
  | none => do
    let opt ← (keystore.inner.getKey pubKeyCommitment).mapError (.otherWithSource "failed to load secret key")
    match opt with
    | some key => pure (K.sign key commitment)
    | none => throw (.unknownPublicKey pubKeyCommitment)
  | some extSigner => do
    let digest := keccak256HashWord K commitment
    let sigBytes ← (extSigner.signPrehash pubKeyCommitment digest).mapError fun e => .other e.display
    (parseEcdsaSignature K sigBytes).mapError fun e => .other s!"invalid ECDSA signature: {e}"

end BraleKeystore

/-! ### The wire form -/

/-- The recovery id in the wire form, its last byte. -/
def recoveryId (bytes : Vector UInt8 65) : UInt8 := bytes[64]

namespace Signature

theorem slice_bytes (sig : Signature) : slice sig.bytes 0 64 (by omega) = sig.r ++ sig.s :=
  slice_parts sig.r sig.s sig.v

@[simp] theorem recoveryId_bytes (sig : Signature) : recoveryId sig.bytes = sig.v := getElem_parts sig.r sig.s sig.v

/-- Any 65 bytes are the wire form of a signature. -/
theorem exists_bytes (b : Vector UInt8 65) : ∃ sig : Signature, sig.bytes = b := by
  let rs : Vector UInt8 64 := slice b 0 64 (by omega)
  have hrs : slice rs 0 32 (by omega) ++ slice rs 32 32 (by omega) = rs := slice_append_slice (m := 32) (k := 32) rs
  refine ⟨⟨slice rs 0 32 (by omega), slice rs 32 32 (by omega), recoveryId b⟩, ?_⟩
  rw [bytes, hrs]
  exact push_slice b

end Signature

section Signatures

variable {fs : FilesystemKeyStore K} {c : PublicKeyCommitment} {sk : K.SecretKey} {sig : Signature}
  {inputs : SigningInputs}

/-- Without a signer, the signature is that of the stored key. -/
theorem getSignature_passthrough :
    (BraleKeystore.passthrough fs).getSignature c inputs = .ok sig ↔
      ∃ sk, fs.getKey c = .ok (some sk) ∧ sig = K.sign sk inputs.toCommitment := by
  simp only [BraleKeystore.passthrough, BraleKeystore.getSignature, Effects.except_bind_ok,
    Effects.except_mapError_ok]
  constructor
  · rintro ⟨key, hkey, hsig⟩
    cases key with
    | none => cases hsig
    | some sk =>
      cases hsig
      exact ⟨sk, hkey, rfl⟩
  · rintro ⟨sk, hkey, rfl⟩
    exact ⟨some sk, hkey, rfl⟩

/-- With a signer, the signature is the parsed answer of the signer; the stored keys are not consulted. -/
theorem getSignature_new {signer : ExternalSigner} :
    (BraleKeystore.new fs signer).getSignature c inputs = .ok sig ↔
      ∃ bytes, signer.signPrehash c (keccak256HashWord K inputs.toCommitment) = .ok bytes ∧
        parseEcdsaSignature K bytes = .ok sig := by
  simp only [BraleKeystore.new, BraleKeystore.getSignature, Effects.except_bind_ok,
    Effects.except_mapError_ok]

/-- Parsing hands over the first 64 bytes and the last one. -/
theorem parseEcdsaSignature_eq (bytes : Vector UInt8 65) :
    parseEcdsaSignature K bytes = K.fromSec1BytesAndRecoveryId (slice bytes 0 64 (by omega)) (recoveryId bytes) := by
  rw [parseEcdsaSignature, copyFromSlice_all, recoveryId]

/-- Parsing the wire form gives the signature back. -/
theorem parseEcdsaSignature_bytes (hK : K.Parses) (hv : sig.v ≤ 3) : parseEcdsaSignature K sig.bytes = .ok sig := by
  rw [parseEcdsaSignature_eq, sig.slice_bytes, sig.recoveryId_bytes]
  exact hK.accepts sig.r sig.s sig.v hv

/-- Bytes with a recovery id of at most 3 are the wire form of the signature that parsing gives. -/
theorem parseEcdsaSignature_of_le (hK : K.Parses) {bytes : Vector UInt8 65} (hv : recoveryId bytes ≤ 3) :
    ∃ sig, parseEcdsaSignature K bytes = .ok sig ∧ sig.bytes = bytes := by
  obtain ⟨sig, rfl⟩ := Signature.exists_bytes bytes
  rw [sig.recoveryId_bytes] at hv
  exact ⟨sig, parseEcdsaSignature_bytes hK hv, rfl⟩

/-- Bytes with a larger recovery id are refused. -/
theorem parseEcdsaSignature_of_lt (hK : K.RecoveryIds) {bytes : Vector UInt8 65} (hv : 3 < recoveryId bytes) :
    ∃ e, parseEcdsaSignature K bytes = .error e := by
  rw [parseEcdsaSignature_eq]
  exact hK.refuses _ _ hv

end Signatures

/-! ## `SimulatedMpcSigner` -/

/-- `SimulatedMpcSigner`: the registered keys, each under its own commitment. -/
structure SimulatedMpcSigner (K : EcdsaK256Keccak) where
  keys : PublicKeyCommitment → Option K.SecretKey
  commitment_eq : ∀ {c sk}, keys c = some sk → c = K.commitmentOf sk

namespace SimulatedMpcSigner

/-- `SimulatedMpcSigner::new` -/
def new : SimulatedMpcSigner K := ⟨fun _ => none, nofun⟩

/-- `register_key`: the commitment, and the signer with the key. -/
def registerKey (signer : SimulatedMpcSigner K) (secretKey : K.SecretKey) :
    PublicKeyCommitment × SimulatedMpcSigner K :=
  let pubKey := K.publicKey secretKey
  let commitment : PublicKeyCommitment := ⟨K.toCommitment pubKey⟩
  let keys := Function.update signer.keys commitment (some secretKey)
  (commitment, ⟨keys, by
    intro c sk h
    by_cases hc : c = commitment
    · simp only [keys, hc, Function.update_self, Option.some.injEq] at h
      rw [hc, ← h]
      rfl
    · simp only [keys, Function.update_of_ne hc] at h
      exact signer.commitment_eq h⟩)

/-- `sign_prehash` -/
def signPrehash (signer : SimulatedMpcSigner K) (pubKeyCommitment : PublicKeyCommitment) (digest : Vector UInt8 32) :
    Except ExternalSignerError (Vector UInt8 65) :=
  match signer.keys pubKeyCommitment with
  | none => .error (.signingFailed s!"unknown key commitment: {K.debugCommitment pubKeyCommitment}")
  | some secretKey =>
    let signature := K.signPrehash secretKey digest
    let out := Vector.replicate 65 0
    let out := copyFromSlice out 0 signature.r
    let out := copyFromSlice out 32 signature.s
    .ok (out.set 64 signature.v)

/-- `Arc<SimulatedMpcSigner>` as an `ExternalSigner`. -/
def toExternalSigner (signer : SimulatedMpcSigner K) : ExternalSigner := ⟨signer.signPrehash⟩

/-- The signer after `register_key` on each of the keys. -/
def registerAll (signer : SimulatedMpcSigner K) (keys : List K.SecretKey) : SimulatedMpcSigner K :=
  keys.foldl (fun s sk => (s.registerKey sk).2) signer

section Registered

variable {signer : SimulatedMpcSigner K} {c : PublicKeyCommitment} {sk : K.SecretKey} {d : Vector UInt8 32}

/-- A key that is held signs, and the answer is the wire form of its signature. -/
theorem signPrehash_registered (h : signer.keys c = some sk) :
    signer.signPrehash c d = .ok (K.signPrehash sk d).bytes := by
  simp only [signPrehash, h]
  exact congrArg Except.ok (write_parts (m := 32) (k := 32) _ _ _ _)

theorem signPrehash_unknown (h : signer.keys c = none) :
    signer.signPrehash c d = .error (.signingFailed s!"unknown key commitment: {K.debugCommitment c}") := by
  simp only [signPrehash, h]

/-- One registration: the new key under its commitment, the others as before. -/
theorem registerKey_keys :
    (signer.registerKey sk).2.keys c = if c = K.commitmentOf sk then some sk else signer.keys c := by
  show Function.update signer.keys (K.commitmentOf sk) (some sk) c = _
  rw [Function.update_apply]

/-- After a registration a key is held if it is the new one or was held before. -/
theorem registerKey_keys_some (hK : K.Lawful) {key : K.SecretKey} :
    (signer.registerKey key).2.keys c = some sk ↔ c = K.commitmentOf sk ∧ (sk = key ∨ signer.keys c = some sk) := by
  rw [registerKey_keys]
  split
  · rename_i hc
    constructor
    · intro h
      cases h
      exact ⟨hc, .inl rfl⟩
    · intro h
      rw [hK.commitment_injective (hc.symm.trans h.1)]
  · rename_i hc
    constructor
    · intro h
      exact ⟨signer.commitment_eq h, .inr h⟩
    · intro h
      obtain ⟨hsk, rfl | h⟩ := h
      · exact absurd hsk hc
      · exact h

/-- The keys held after a run of registrations: those registered in it, and the earlier ones. -/
theorem registerAll_keys (hK : K.Lawful) (keys : List K.SecretKey) :
    (signer.registerAll keys).keys c = some sk ↔
      c = K.commitmentOf sk ∧ (sk ∈ keys ∨ signer.keys c = some sk) := by
  induction keys generalizing signer with
  | nil =>
    simp only [registerAll, List.foldl_nil, List.not_mem_nil, false_or]
    exact ⟨fun h => ⟨signer.commitment_eq h, h⟩, fun h => h.2⟩
  | cons key rest ih =>
    rw [registerAll, List.foldl_cons, ← registerAll, ih, registerKey_keys_some hK, List.mem_cons]
    tauto

/-- A fresh signer holds exactly the registered keys. -/
theorem new_registerAll_keys (hK : K.Lawful) (keys : List K.SecretKey) :
    (new.registerAll keys).keys c = some sk ↔ c = K.commitmentOf sk ∧ sk ∈ keys := by
  have hnew : (new : SimulatedMpcSigner K).keys c ≠ some sk := nofun
  rw [registerAll_keys hK]
  simp only [hnew, or_false]

end Registered

end SimulatedMpcSigner

/-- A commitment that the signer does not hold is refused with the signer's text. -/
theorem getSignature_unknown (fs : FilesystemKeyStore K) {signer : SimulatedMpcSigner K} {c : PublicKeyCommitment}
    (h : signer.keys c = none) (inputs : SigningInputs) :
    (BraleKeystore.new fs signer.toExternalSigner).getSignature c inputs =
      .error (.other s!"signing failed: unknown key commitment: {K.debugCommitment c}") := by
  have hrefused : signer.toExternalSigner.signPrehash c (keccak256HashWord K inputs.toCommitment) =
      .error (.signingFailed s!"unknown key commitment: {K.debugCommitment c}") :=
    SimulatedMpcSigner.signPrehash_unknown h
  simp only [BraleKeystore.new, BraleKeystore.getSignature, hrefused]
  rfl

/-! ## The key store of the test vector -/

namespace TestVector

/-- The key store with one more key. -/
def addKey (fs : FilesystemKeyStore sdk) (sk : sdk.SecretKey) : FilesystemKeyStore sdk :=
  ⟨fun c => if c = sdk.commitmentOf sk then .ok (some sk) else fs.getKey c⟩

theorem addKey_getKey (fs : FilesystemKeyStore sdk) (sk : sdk.SecretKey) (c : PublicKeyCommitment) :
    (addKey fs sk).getKey c = if c = sdk.commitmentOf sk then .ok (some sk) else fs.getKey c := rfl

/-- The key store that holds the key of the test vector. -/
def keystore : FilesystemKeyStore sdk := addKey ⟨fun _ => .ok none⟩ key

theorem keystore_getKey : keystore.getKey (sdk.commitmentOf key) = .ok (some key) := by
  rw [keystore, addKey_getKey, if_pos rfl]

theorem keystore_zero (sk : sdk.SecretKey) : keystore.getKey ⟨Vector.replicate 4 0⟩ ≠ .ok (some sk) := by
  have hne : (⟨Vector.replicate 4 0⟩ : PublicKeyCommitment) ≠ sdk.commitmentOf key := by decide
  rw [keystore, addKey_getKey, if_neg hne]
  nofun

end TestVector

end BraleMiden
