import BraleMiden.Signing.Multisig

/-!
# What the texts of a key manager say

`commitment_hex` and `sign_hex` of `multisig.rs` hand out hex texts; whoever gets one has nothing else of the key or of
the signature. Read back, they say all there is to say.

* `hexText_eq_some`: the texts after `0x` are read back, and no other text is;
* `wordBytes_injective`: the bytes of a word determine it;
* `hexText_signHex`: the text of a signature gives the signer's answer;
* `getSignature_iff_text`: so the keystore answers what parsing that text gives;
* `managers_texts`: which key a manager has, and what its signer answered, from its texts.
-/

namespace BraleMiden

open Bytes

variable {K : EcdsaK256Keccak}

/-! ## Reading a text -/

/-- The byte string of length `n` that a text gives after its `0x`. -/
def hexText (n : ℕ) (s : String) : Option (Vector UInt8 n) :=
  match s.toList with
  | '0' :: 'x' :: digits => hexDecode n (String.ofList digits)
  | _ => none

section HexText

variable {n : ℕ} {v : Vector UInt8 n} {s : String}

theorem hexText_hexEncode (v : Vector UInt8 n) : hexText n ("0x" ++ hexEncode v) = some v := by
  have htext : ("0x" ++ hexEncode v).toList = '0' :: 'x' :: (hexEncode v).toList := String.toList_append
  rw [hexText, htext]
  exact hexDecode_eq_some.2 String.ofList_toList

/-- A text is read back as a byte string if and only if it is the hex text of the byte string after `0x`. -/
theorem hexText_eq_some : hexText n s = some v ↔ s = "0x" ++ hexEncode v := by
  constructor
  · intro h
    unfold hexText at h
    split at h
    · rename_i digits htext
      have hdigits : String.ofList digits = hexEncode v := hexDecode_eq_some.1 h
      have hs : s = String.ofList ('0' :: 'x' :: digits) := by rw [← htext, String.ofList_toList]
      rw [hs, ← hdigits]
      exact @String.ofList_append ['0', 'x'] digits
    · cases h
  · rintro rfl
    exact hexText_hexEncode v

end HexText

/-! ## Words -/

/-- The byte of an element at a position, least significant first. -/
theorem getElem_wordBytes (w : Word) {i j : ℕ} (hi : i < 4) (hj : j < 8) :
    ((wordBytes w)[8 * i + j]).toNat = w[i].val / 256 ^ j % 256 := by
  have hquot : (8 * i + j) / 8 = i := by omega
  have hrem : (8 * i + j) % 8 = j := by omega
  simp only [wordBytes, Vector.getElem_ofFn, hquot, hrem, UInt8.toNat_ofNat']

/-- The bytes of a word determine it: eight bytes are more than an element needs. -/
theorem wordBytes_injective {w w' : Word} (h : wordBytes w = wordBytes w') : w = w' := by
  have hbound : ∀ x : Felt, x.val < 256 ^ 8 := by
    intro x
    have hx := x.isLt
    unfold feltModulus at hx
    omega
  apply Vector.ext
  intro i hi
  apply Fin.ext
  refine eq_of_digits (hbound _) (hbound _) fun j hj => ?_
  rw [← getElem_wordBytes w hi hj, ← getElem_wordBytes w' hi hj, h]

/-! ## Signatures -/

section SignHex

variable {manager : BraleMpcKeyManager K} {message : Word} {text : String}

/-- The text of a signature is read back as what the signer answered, and as nothing else. -/
theorem hexText_signHex (h : manager.signHex message = .ok text) {bytes : Vector UInt8 65} :
    hexText 65 text = some bytes ↔
      manager.signer.signPrehash ⟨manager.commitment⟩ (keccak256HashWord K message) = .ok bytes := by
  obtain ⟨answer, hanswer, rfl⟩ := signHex_ok.1 h
  rw [hexText_hexEncode, hanswer, Option.some.injEq, Except.ok.injEq]

/-- The keystore answers the signature that parsing the bridge's text gives, whatever the signer answers. -/
theorem getSignature_iff_text (fs : FilesystemKeyStore K) {sig : Signature} :
    (BraleKeystore.new fs manager.signer).getSignature ⟨manager.commitment⟩ ⟨message⟩ = .ok sig ↔
      ∃ text bytes, manager.signHex message = .ok text ∧ hexText 65 text = some bytes ∧
        parseEcdsaSignature K bytes = .ok sig := by
  rw [getSignature_new]
  constructor
  · intro h
    obtain ⟨bytes, hbytes, hparse⟩ := h
    exact ⟨"0x" ++ hexEncode bytes, bytes, signHex_ok.2 ⟨bytes, hbytes, rfl⟩, hexText_hexEncode bytes, hparse⟩
  · intro h
    obtain ⟨text, bytes, htext, hread, hparse⟩ := h
    exact ⟨bytes, (hexText_signHex htext).1 hread, hparse⟩

end SignHex

/-! ## Managers -/

section Managers

variable {manager manager' : BraleMpcKeyManager K}

theorem commitmentHex_inj : manager.commitmentHex = manager'.commitmentHex ↔
    manager.commitment = manager'.commitment := by
  constructor
  · intro h
    have hread : hexText 32 manager.commitmentHex = some (wordBytes manager'.commitment) := by
      rw [h, manager'.commitmentHex_eq, hexText_hexEncode]
    rw [manager.commitmentHex_eq, hexText_hexEncode, Option.some.injEq] at hread
    exact wordBytes_injective hread
  · intro h
    rw [manager.commitmentHex_eq, manager'.commitmentHex_eq, h]

/-- Two managers with one commitment have one key. -/
theorem commitment_inj (hK : K.Lawful) : manager.commitment = manager'.commitment ↔
    manager.secretKey = manager'.secretKey := by
  have hof : ∀ m : BraleMpcKeyManager K, (⟨m.commitment⟩ : PublicKeyCommitment) = K.commitmentOf m.secretKey := by
    intro m
    rw [m.commitment_eq, m.publicKey_eq]
    rfl
  constructor
  · intro h
    apply hK.commitment_injective
    rw [← hof manager, ← hof manager', h]
  · intro h
    have hword : (⟨manager.commitment⟩ : PublicKeyCommitment) = ⟨manager'.commitment⟩ := by
      rw [hof manager, hof manager', h]
    exact congrArg PublicKeyCommitment.word hword

end Managers

/-- **The texts say everything.** The commitment text of a manager is read back as the bytes of its commitment and of no
other word, no other text is, and two managers show one text if and only if they have one key. The text of a signature
is read back as the signer's answer and as nothing else; a keystore with the same signer gives the signature that
parsing this answer gives, and none where there is no text. -/
theorem managers_texts (hK : K.Lawful) (manager : BraleMpcKeyManager K) :
    (∀ w, hexText 32 manager.commitmentHex = some (wordBytes w) ↔ w = manager.commitment) ∧
      (∀ s, hexText 32 s = some (wordBytes manager.commitment) ↔ s = manager.commitmentHex) ∧
      (∀ manager' : BraleMpcKeyManager K, manager.commitmentHex = manager'.commitmentHex ↔
        manager.secretKey = manager'.secretKey) ∧
      (∀ message text bytes, manager.signHex message = .ok text → (hexText 65 text = some bytes ↔
        manager.signer.signPrehash ⟨manager.commitment⟩ (keccak256HashWord K message) = .ok bytes)) ∧
      ∀ (fs : FilesystemKeyStore K) (message : Word) (sig : Signature),
        (BraleKeystore.new fs manager.signer).getSignature ⟨manager.commitment⟩ ⟨message⟩ = .ok sig ↔
          ∃ text bytes, manager.signHex message = .ok text ∧ hexText 65 text = some bytes ∧
            parseEcdsaSignature K bytes = .ok sig := by
  refine ⟨fun w => ?_, fun s => ?_, fun manager' => ?_, fun message text bytes h => hexText_signHex h,
    fun fs message sig => getSignature_iff_text fs⟩
  · rw [manager.commitmentHex_eq, hexText_hexEncode, Option.some.injEq]
    exact ⟨fun h => (wordBytes_injective h).symm, fun h => by rw [h]⟩
  · rw [hexText_eq_some, manager.commitmentHex_eq]
  · rw [commitmentHex_inj, commitment_inj hK]

open TestVector in
/-- The texts of the test vector. -/
theorem testVector_texts :
    hexText 32 (BraleMpcKeyManager.new key (signerWith 28)).commitmentHex = some (wordBytes (sdk.toCommitment key)) ∧
      (BraleMpcKeyManager.new key (signerWith 28)).commitmentHex ≠
        (BraleMpcKeyManager.new Key.other (signerWith 28) : BraleMpcKeyManager sdk).commitmentHex ∧
      hexText 65 ("0x" ++ hexEncode ({ signature with v := 28 } : Signature).bytes) =
        some ({ signature with v := 28 } : Signature).bytes := by
  obtain ⟨hword, -, hkey, hsignature, -⟩ := managers_texts sdk_lawful (BraleMpcKeyManager.new key (signerWith 28))
  have hsigned : (BraleMpcKeyManager.new key (signerWith 28)).signHex commitment =
      .ok ("0x" ++ hexEncode ({ signature with v := 28 } : Signature).bytes) := signHex_new_ok.2 ⟨_, rfl, rfl⟩
  refine ⟨(hword _).2 rfl, ?_, (hsignature _ _ _ hsigned).2 rfl⟩
  intro h
  have hkeys : key = Key.other := (hkey _).1 h
  cases hkeys

end BraleMiden
