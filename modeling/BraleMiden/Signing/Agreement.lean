import BraleMiden.Signing.Multisig

/-!
# The signing paths agree

A key can sign on four paths: from the key store on disk, through the simulated signer, through the multisig bridge with
the same signer, and in the key store of the multisig client. They share no code between the word and the 65 bytes.

* `getSignature_registered`, `signHex_registered`: a registered key signs through the signer as it signs by itself;
* `getSignature_unknown`, `signHex_unknown`, `getSignature_not_stored`: a key that is neither registered nor stored
  signs on no path;
* `signing_paths_agree`: all four give the same signature, for every key of every run of registrations.
-/

namespace BraleMiden

open Bytes

variable {K : EcdsaK256Keccak}

/-- The signer after the registrations, as the keystore and the bridge hold it. -/
def registeredSigner (keys : List K.SecretKey) : ExternalSigner :=
  (SimulatedMpcSigner.new.registerAll keys).toExternalSigner

/-- All paths sign `inputs` with the signature `sig`. -/
structure AllSign (fs : FilesystemKeyStore K) (signer : ExternalSigner) (sk : K.SecretKey) (inputs : SigningInputs)
    (sig : Signature) : Prop where
  external : (BraleKeystore.new fs signer).getSignature (K.commitmentOf sk) inputs = .ok sig
  stored : (BraleKeystore.passthrough fs).getSignature (K.commitmentOf sk) inputs = .ok sig
  bridge : (BraleMpcKeyManager.new sk signer).signHex inputs.toCommitment = .ok ("0x" ++ hexEncode sig.bytes)
  multisig : (SimulatedMpcKeyManager.new sk).signHex inputs.toCommitment = "0x" ++ hexEncode sig.bytes

section Paths

variable {fs : FilesystemKeyStore K} {signer : SimulatedMpcSigner K} {c : PublicKeyCommitment} {sk : K.SecretKey}

/-- What the signer answers for the hash of a word is the wire form of the key's signature of the word. -/
theorem signPrehash_word (hK : K.Lawful) (h : signer.keys c = some sk) (w : Word) :
    signer.toExternalSigner.signPrehash c (keccak256HashWord K w) = .ok (K.sign sk w).bytes := by
  rw [hK.sign_eq]
  exact SimulatedMpcSigner.signPrehash_registered h

/-- The signature of a lawful key parses back from its wire form. -/
theorem parseEcdsaSignature_sign (hK : K.Lawful) (sk : K.SecretKey) (w : Word) :
    parseEcdsaSignature K (K.sign sk w).bytes = .ok (K.sign sk w) := by
  apply parseEcdsaSignature_bytes hK.toParses
  rw [hK.sign_eq]
  exact hK.recoveryId_le sk _

theorem getSignature_registered (hK : K.Lawful) (h : signer.keys c = some sk) (inputs : SigningInputs) :
    (BraleKeystore.new fs signer.toExternalSigner).getSignature c inputs = .ok (K.sign sk inputs.toCommitment) :=
  getSignature_new.2 ⟨_, signPrehash_word hK h _, parseEcdsaSignature_sign hK sk _⟩

theorem signHex_registered (hK : K.Lawful) (h : signer.keys (K.commitmentOf sk) = some sk) (w : Word) :
    (BraleMpcKeyManager.new sk signer.toExternalSigner).signHex w = .ok ("0x" ++ hexEncode (K.sign sk w).bytes) :=
  signHex_new_ok.2 ⟨_, signPrehash_word hK h w, rfl⟩

/-- The bridge of a key that the signer does not hold panics with the signer's text. -/
theorem signHex_unknown (h : signer.keys (K.commitmentOf sk) = none) (w : Word) :
    (BraleMpcKeyManager.new sk signer.toExternalSigner).signHex w = .error ("BraleMpcKeyManager: signing failed: " ++
      s!"signing failed: unknown key commitment: {K.debugCommitment (K.commitmentOf sk)}") := by
  have hrefused : signer.toExternalSigner.signPrehash ⟨K.toCommitment (BraleMpcKeyManager.new sk
      signer.toExternalSigner).publicKey⟩ (keccak256HashWord K w) = .error (.signingFailed
        s!"unknown key commitment: {K.debugCommitment (K.commitmentOf sk)}") := SimulatedMpcSigner.signPrehash_unknown h
  rw [BraleMpcKeyManager.signHex]
  simp only [BraleMpcKeyManager.new] at hrefused ⊢
  rw [hrefused]
  rfl

/-- A commitment that is not stored is refused by the passthrough keystore. -/
theorem getSignature_not_stored (h : ∀ sk, fs.getKey c ≠ .ok (some sk)) (inputs : SigningInputs) :
    ∃ e, (BraleKeystore.passthrough fs).getSignature c inputs = .error e := by
  cases hsig : (BraleKeystore.passthrough fs).getSignature c inputs with
  | error e => exact ⟨e, rfl⟩
  | ok sig =>
    obtain ⟨sk, hsk, -⟩ := getSignature_passthrough.1 hsig
    exact absurd hsk (h sk)

end Paths

/-- **Agreement of the signing paths.** After any run of registrations of stored keys, every registered key signs every
word on all four paths with one signature, its own; and a commitment that is neither registered nor stored gets no
signature from either keystore, nor from the bridge of its key. -/
theorem signing_paths_agree (hK : K.Lawful) (fs : FilesystemKeyStore K) (keys : List K.SecretKey)
    (hfs : ∀ sk ∈ keys, fs.getKey (K.commitmentOf sk) = .ok (some sk)) :
    (∀ sk ∈ keys, ∀ inputs, AllSign fs (registeredSigner keys) sk inputs (K.sign sk inputs.toCommitment)) ∧
      ∀ c, (∀ sk ∈ keys, c ≠ K.commitmentOf sk) → (∀ sk, fs.getKey c ≠ .ok (some sk)) → ∀ inputs,
        (∃ e, (BraleKeystore.new fs (registeredSigner keys)).getSignature c inputs = .error e) ∧
          (∃ e, (BraleKeystore.passthrough fs).getSignature c inputs = .error e) ∧
          ∀ sk, c = K.commitmentOf sk → ∃ e,
            (BraleMpcKeyManager.new sk (registeredSigner keys)).signHex inputs.toCommitment = .error e := by
  constructor
  · intro sk hsk inputs
    have hkey : (SimulatedMpcSigner.new.registerAll keys).keys (K.commitmentOf sk) = some sk :=
      (SimulatedMpcSigner.new_registerAll_keys hK keys).2 ⟨rfl, hsk⟩
    exact {
      external := getSignature_registered hK hkey inputs
      stored := getSignature_passthrough.2 ⟨sk, hfs sk hsk, rfl⟩
      bridge := signHex_registered hK hkey inputs.toCommitment
      multisig := hK.psmSignHex_eq sk inputs.toCommitment }
  · intro c hc hstored inputs
    have hnone : (SimulatedMpcSigner.new.registerAll keys).keys c = none := by
      cases hkey : (SimulatedMpcSigner.new.registerAll keys).keys c with
      | none => rfl
      | some sk =>
        obtain ⟨hsk, hmem⟩ := (SimulatedMpcSigner.new_registerAll_keys hK keys).1 hkey
        exact absurd hsk (hc sk hmem)
    refine ⟨⟨_, getSignature_unknown fs hnone inputs⟩, getSignature_not_stored hstored inputs, ?_⟩
    intro sk hsk
    rw [hsk] at hnone
    exact ⟨_, signHex_unknown hnone inputs.toCommitment⟩

open TestVector in
/-- The key of the test vector, registered twice, signs with the signature of the test vector; the zero commitment gets
no signature. -/
theorem testVector_paths_agree :
    AllSign keystore (registeredSigner [key, key]) key ⟨commitment⟩ signature ∧
      ∃ e, (BraleKeystore.passthrough keystore).getSignature ⟨Vector.replicate 4 0⟩ ⟨commitment⟩ = .error e := by
  have hkey : ∀ sk ∈ [key, key], sk = key := by simp
  have hzero : (⟨Vector.replicate 4 0⟩ : PublicKeyCommitment) ≠ sdk.commitmentOf key := by decide
  have hagree := signing_paths_agree sdk_lawful keystore [key, key] (by
    intro sk hsk
    rw [hkey sk hsk]
    exact keystore_getKey)
  have hunknown := hagree.2 ⟨Vector.replicate 4 0⟩ (by
    intro sk hsk
    rw [hkey sk hsk]
    exact hzero) keystore_zero ⟨commitment⟩
  have hsign := hagree.1 key List.mem_cons_self ⟨commitment⟩
  rw [sdk_sign] at hsign
  exact ⟨hsign, hunknown.2.1⟩

end BraleMiden
