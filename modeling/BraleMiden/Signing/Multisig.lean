import BraleMiden.Signing.Keystore

/-!
# The multisig bridge

`multisig.rs`: the key managers of the multisig client. `BraleMpcKeyManager` signs through an external signer and passes
the answer on without looking at it; `SimulatedMpcKeyManager` signs with the key store of the multisig client.

So the bridge and `BraleKeystore` take the same answers of a signer if and only if the signer never answers with a
recovery id above 3 (`sameResponses_iff`).
-/

namespace BraleMiden

open Bytes

variable {K : EcdsaK256Keccak}

/-! ## Key managers -/

/-- `BraleMpcKeyManager`. All that is derived from the key is derived by `new`. -/
structure BraleMpcKeyManager (K : EcdsaK256Keccak) where
  secretKey : K.SecretKey
  publicKey : K.PublicKey
  commitment : Word
  commitmentHex : String
  signer : ExternalSigner
  publicKey_eq : publicKey = K.publicKey secretKey
  commitment_eq : commitment = K.toCommitment publicKey
  commitmentHex_eq : commitmentHex = "0x" ++ hexEncode (wordBytes commitment)

namespace BraleMpcKeyManager

/-- `BraleMpcKeyManager::new` -/
def new (secretKey : K.SecretKey) (signer : ExternalSigner) : BraleMpcKeyManager K :=
  let publicKey := K.publicKey secretKey
  let commitmentWord := K.toCommitment publicKey
  let commitmentBytes := wordBytes commitmentWord
  let commitmentHex := "0x" ++ hexEncode commitmentBytes
  ⟨secretKey, publicKey, commitmentWord, commitmentHex, signer, rfl, rfl, rfl⟩

/-- `sign_hex`. It has no error to return: a failing signer makes it panic, here an error with the text. -/
def signHex (manager : BraleMpcKeyManager K) (message : Word) : Except String String :=
  let pubKeyCommitment : PublicKeyCommitment := ⟨K.toCommitment manager.publicKey⟩
  let digest := keccak256HashWord K message
  match manager.signer.signPrehash pubKeyCommitment digest with
  | .ok bytes => .ok ("0x" ++ hexEncode bytes)
  | .error e => .error s!"BraleMpcKeyManager: signing failed: {e.display}"

end BraleMpcKeyManager

/-- `SimulatedMpcKeyManager`: the key store of the multisig client, by its key. -/
structure SimulatedMpcKeyManager (K : EcdsaK256Keccak) where
  inner : K.SecretKey

/-- `SimulatedMpcKeyManager::new` -/
def SimulatedMpcKeyManager.new (secretKey : K.SecretKey) : SimulatedMpcKeyManager K := ⟨secretKey⟩

/-- `sign_hex` -/
def SimulatedMpcKeyManager.signHex (manager : SimulatedMpcKeyManager K) (message : Word) : String :=
  K.psmSignHex manager.inner message

section SignHex

variable {manager : BraleMpcKeyManager K} {signer : ExternalSigner} {sk : K.SecretKey} {w : Word}

/-- A manager asks the signer for the commitment it reports. -/
theorem signHex_ok {text : String} :
    manager.signHex w = .ok text ↔
      ∃ bytes, manager.signer.signPrehash ⟨manager.commitment⟩ (keccak256HashWord K w) = .ok bytes ∧
        text = "0x" ++ hexEncode bytes := by
  rw [BraleMpcKeyManager.signHex, ← manager.commitment_eq]
  cases h : manager.signer.signPrehash ⟨manager.commitment⟩ (keccak256HashWord K w) with
  | ok bytes => simp [eq_comm]
  | error e => simp

/-- The bridge signs for the commitment of its key, and gives the hex of whatever the signer answers. -/
theorem signHex_new_ok {text : String} :
    (BraleMpcKeyManager.new sk signer).signHex w = .ok text ↔
      ∃ bytes, signer.signPrehash (K.commitmentOf sk) (keccak256HashWord K w) = .ok bytes ∧
        text = "0x" ++ hexEncode bytes := signHex_ok

end SignHex

/-! ## The answers the two paths take -/

/-- The bridge and the keystore agree on the signer's answer for the key and the word: both give a signature or neither
does, and the text is the hex of the signature. -/
def SameResponses (fs : FilesystemKeyStore K) (signer : ExternalSigner) (sk : K.SecretKey) (inputs : SigningInputs) :
    Prop :=
  ((∃ text, (BraleMpcKeyManager.new sk signer).signHex inputs.toCommitment = .ok text) ↔
      ∃ sig, (BraleKeystore.new fs signer).getSignature (K.commitmentOf sk) inputs = .ok sig) ∧
    ∀ text sig, (BraleMpcKeyManager.new sk signer).signHex inputs.toCommitment = .ok text →
      (BraleKeystore.new fs signer).getSignature (K.commitmentOf sk) inputs = .ok sig →
      text = "0x" ++ hexEncode sig.bytes

/-- The keystore refuses an answer with a larger recovery id, with its own text. -/
theorem getSignature_new_refuses (hK : K.RecoveryIds) (fs : FilesystemKeyStore K) {signer : ExternalSigner}
    {c : PublicKeyCommitment} (inputs : SigningInputs) {bytes : Vector UInt8 65}
    (hbytes : signer.signPrehash c (keccak256HashWord K inputs.toCommitment) = .ok bytes)
    (hv : 3 < recoveryId bytes) : ∃ e : String,
    (BraleKeystore.new fs signer).getSignature c inputs = .error (.other s!"invalid ECDSA signature: {e}") := by
  obtain ⟨e, he⟩ := parseEcdsaSignature_of_lt hK hv
  refine ⟨e, ?_⟩
  simp [BraleKeystore.new, BraleKeystore.getSignature, hbytes, he, Except.mapError, bind, Except.bind]

/-- So such an answer splits the two paths. -/
theorem not_sameResponses (hK : K.RecoveryIds) {fs : FilesystemKeyStore K} {signer : ExternalSigner} {sk : K.SecretKey}
    {inputs : SigningInputs} {bytes : Vector UInt8 65}
    (hbytes : signer.signPrehash (K.commitmentOf sk) (keccak256HashWord K inputs.toCommitment) = .ok bytes)
    (hv : 3 < recoveryId bytes) : ¬ SameResponses fs signer sk inputs := by
  intro hsame
  obtain ⟨sig, hsig⟩ := hsame.1.1 ⟨_, signHex_new_ok.2 ⟨bytes, hbytes, rfl⟩⟩
  obtain ⟨e, he⟩ := getSignature_new_refuses hK fs inputs hbytes hv
  rw [he] at hsig
  cases hsig

/-- **Same answers on both paths.** For every external signer, the bridge and the keystore agree on its answer if and
only if the answer is an error or has a recovery id of at most 3: the keystore refuses all others, the bridge none. -/
theorem sameResponses_iff (hK : K.RecoveryIds) (fs : FilesystemKeyStore K) (signer : ExternalSigner)
    (sk : K.SecretKey) (inputs : SigningInputs) :
    SameResponses fs signer sk inputs ↔
      ∀ bytes, signer.signPrehash (K.commitmentOf sk) (keccak256HashWord K inputs.toCommitment) = .ok bytes →
        recoveryId bytes ≤ 3 := by
  constructor
  · intro hsame bytes hbytes
    by_contra hv
    exact not_sameResponses hK hbytes (UInt8.not_le.1 hv) hsame
  · intro hle
    constructor
    · constructor
      · intro h
        obtain ⟨text, htext⟩ := h
        obtain ⟨bytes, hbytes, -⟩ := signHex_new_ok.1 htext
        obtain ⟨sig, hparse, -⟩ := parseEcdsaSignature_of_le hK.toParses (hle bytes hbytes)
        exact ⟨sig, getSignature_new.2 ⟨bytes, hbytes, hparse⟩⟩
      · intro h
        obtain ⟨sig, hsig⟩ := h
        obtain ⟨bytes, hbytes, -⟩ := getSignature_new.1 hsig
        exact ⟨_, signHex_new_ok.2 ⟨bytes, hbytes, rfl⟩⟩
    · intro text sig htext hsig
      obtain ⟨bytes, hbytes, rfl⟩ := signHex_new_ok.1 htext
      obtain ⟨bytes', hbytes', hparse⟩ := getSignature_new.1 hsig
      rw [hbytes] at hbytes'
      cases hbytes'
      obtain ⟨sig', hparse', hsig'⟩ := parseEcdsaSignature_of_le hK.toParses (hle bytes hbytes)
      rw [hparse] at hparse'
      cases hparse'
      rw [hsig']

/-! ## The test vector -/

namespace TestVector

/-- A signer that answers every digest with the signature of the test vector and the recovery id `v`. -/
def signerWith (v : UInt8) : ExternalSigner := ⟨fun _ _ => .ok { signature with v := v }.bytes⟩

end TestVector

open TestVector

/-- On the signature of the test vector the two paths agree. -/
theorem sameResponses_testVector :
    SameResponses keystore (signerWith 1) key ⟨commitment⟩ :=
  (sameResponses_iff sdk_recoveryIds keystore (signerWith 1) key ⟨commitment⟩).2 (by
    intro bytes hbytes
    cases hbytes
    rw [Signature.recoveryId_bytes]
    decide)

/-- With 28 in place of the recovery id 1, the bridge gives a text and the keystore refuses. -/
theorem ethereum_v_splits :
    (∃ text, (BraleMpcKeyManager.new key (signerWith 28)).signHex commitment = .ok text) ∧
      (∃ e, (BraleKeystore.new keystore (signerWith 28)).getSignature (sdk.commitmentOf key) ⟨commitment⟩ =
        .error e) ∧
      ¬ SameResponses keystore (signerWith 28) key ⟨commitment⟩ := by
  have hv : 3 < recoveryId ({ signature with v := 28 } : Signature).bytes := by
    rw [Signature.recoveryId_bytes]
    decide
  have hbytes : (signerWith 28).signPrehash (sdk.commitmentOf key) (keccak256HashWord sdk commitment) =
      .ok ({ signature with v := 28 } : Signature).bytes := rfl
  obtain ⟨e, he⟩ := getSignature_new_refuses sdk_recoveryIds keystore ⟨commitment⟩ hbytes hv
  exact ⟨⟨_, signHex_new_ok.2 ⟨_, hbytes, rfl⟩⟩, ⟨_, he⟩, not_sameResponses sdk_recoveryIds hbytes hv⟩

end BraleMiden
