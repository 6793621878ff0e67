import BraleMiden.Bin.FullDemo
import BraleMiden.Display.SignerTable

/-!
# The multisig demo

`multisig_demo.rs`: three keys, a 2-of-3 account of theirs, and the signatures of the first two, with a table of the
signers after each. The multisig client is of another package, so its answers are inputs. The parsing of the environment
and the logging are left out.

* `printTable_ok`, `excerpt_ok`: hex texts can be cut, so the tables are whole and the signatures are shown;
* `main_prints`: what the demo prints, for all keys and all answers. It never panics.
-/

namespace BraleMiden.Bin.MultisigDemo

open Effects Display Text Bytes FullDemo

variable {K : EcdsaK256Keccak}

/-! ## The demo -/

/-- The keys that the demo makes, what the key store of the multisig client says of a key, and the answers of the
client. -/
structure Setup (K : EcdsaK256Keccak) where
  km1 : SimulatedMpcKeyManager K
  km2 : SimulatedMpcKeyManager K
  km3 : SimulatedMpcKeyManager K
  /-- `commitment()` -/
  commitment : K.SecretKey → Word
  /-- `commitment_hex()` -/
  commitmentHex : K.SecretKey → String
  commitmentHex_eq : ∀ sk, commitmentHex sk = "0x" ++ hexEncode (wordBytes (commitment sk))
  /-- `Endpoint::try_from(..)` -/
  endpoint : Except Error Unit
  /-- `MultisigClient::builder()`, with this key -/
  build : K.SecretKey → Except Error Unit
  /-- `create_account(threshold, signer_commitments)` -/
  createAccount : ℕ → List Word → Except Error AccountId

/-- An answer of the client. -/
def ask {α : Type} (x : Op (List Printed) Error α) : Op (List Printed) Stop α := Op.embed id (fun _ out => out) .error x

/-- A call that prints. -/
def output {α : Type} (x : Op (List Printed) Panic α) : Op (List Printed) Stop α :=
  Op.embed id (fun _ out => out) .panic x

/-- `println!("{label}{}...{}", &sig[..10], &sig[sig.len() - 6..])` -/
def excerpt (label sig : String) : Op (List Printed) Panic Unit :=
  match splitBytes sig.toList 10, splitBytes sig.toList (sig.utf8ByteSize - 6) with
  | some (first, _), some (_, last) =>
    println (.text (label ++ String.ofList first ++ "..." ++ String.ofList last))
  | _, _ => throw .charBoundary

/-- Steps 1 to 3. -/
def createMultisig (su : Setup K) : Op (List Printed) Stop AccountId := do
  output (println (.text "=== Step 1: Generate 3 ECDSA K256 Keypairs ==="))
  let c1 := su.commitmentHex su.km1.inner
  let c2 := su.commitmentHex su.km2.inner
  let c3 := su.commitmentHex su.km3.inner
  output (printSignerTable [("Signer 1", c1, false), ("Signer 2", c2, false), ("Signer 3", c3, false)] 2)
  output (println (.text "\n=== Step 2: Build MultisigClient ==="))
  ask (lift su.endpoint)
  ask (context "failed to build MultisigClient" (lift (su.build su.km1.inner)))
  output (println (.text "MultisigClient built for signer 1"))
  output (println (.text "\n=== Step 3: Create 2-of-3 Multisig Account ==="))
  let signerCommitments := [su.commitment su.km1.inner, su.commitment su.km2.inner, su.commitment su.km3.inner]
  let account ← ask (context "failed to create multisig account" (lift (su.createAccount 2 signerCommitments)))
  output (println (.text s!"Multisig account: {account}"))
  output (println (.text "Threshold: 2-of-3"))
  return account

/-- Steps 4 and 5. -/
def demonstrateSigning (su : Setup K) (account : AccountId) : Op (List Printed) Stop Unit := do
  let c1 := su.commitmentHex su.km1.inner
  let c2 := su.commitmentHex su.km2.inner
  let c3 := su.commitmentHex su.km3.inner
  output (println (.text "\n=== Step 4: Demonstrate Signing ==="))
  let testMessage := su.commitment su.km1.inner
  let sig1 := su.km1.signHex testMessage
  output (excerpt "Signer 1 signed: " sig1)
  output (printSignerTable [("Signer 1", c1, true), ("Signer 2", c2, false), ("Signer 3", c3, false)] 2)
  let sig2 := su.km2.signHex testMessage
  output (excerpt "\nSigner 2 signed: " sig2)
  output (printSignerTable [("Signer 1", c1, true), ("Signer 2", c2, true), ("Signer 3", c3, false)] 2)
  output (println (.text "\n=== Multisig Demo Complete ==="))
  output (println (.text s!"Account: {account}"))
  output (println (.text "Scheme: ECDSA K256 Keccak"))
  output (println (.text "Signers: 3 generated, 2 signed"))
  output (println (.text "\nTo execute a full multisig transaction:"))
  output (println (.text "  1. Propose a transaction via client.propose(...)"))
  output (println (.text "  2. Each signer calls client.sign(proposal_id)"))
  output (println (.text "  3. Once threshold met, client.execute(proposal_id)"))

/-- `main` -/
def main (su : Setup K) : Op (List Printed) Stop Unit := do
  let account ← createMultisig su
  demonstrateSigning su account

/-! ## What it prints -/

/-- The signers when the first `k` have signed. -/
def Setup.signers (su : Setup K) (k : ℕ) : List (String × String × Bool) :=
  [("Signer 1", su.commitmentHex su.km1.inner, decide (0 < k)),
    ("Signer 2", su.commitmentHex su.km2.inner, decide (1 < k)),
    ("Signer 3", su.commitmentHex su.km3.inner, decide (2 < k))]

/-- The table of the signers when the first `k` have signed, whole and with its verdict. -/
def Setup.Table (su : Setup K) (k : ℕ) (printed : List Printed) : Prop :=
  ∃ rows, List.Forall₂ RowOf (su.signers k) rows ∧
    printed = (signerHeader ++ rows ++ [signerBottom]).map .line ++ [.text (thresholdText k 3 2)]

/-- The text shows the first 10 and the last 6 bytes of `sig`. -/
def Excerpt (label sig text : String) : Prop :=
  ∃ first middle last : String, sig = first ++ middle ++ last ∧ first.utf8ByteSize = 10 ∧ last.utf8ByteSize = 6 ∧
    text = label ++ first ++ "..." ++ last

/-- Other lines. -/
def texts (said : List String) : List Printed := said.map .text

/-- The client is built and creates the account. -/
def Setup.Answers (su : Setup K) (account : AccountId) : Prop :=
  su.endpoint = .ok () ∧ su.build su.km1.inner = .ok () ∧
    su.createAccount 2 [su.commitment su.km1.inner, su.commitment su.km2.inner, su.commitment su.km3.inner] =
      .ok account

section Runs

variable {su : Setup K} {k : ℕ} {out : List Printed}

theorem run_output_ok {α : Type} {x : Op (List Printed) Panic α} {a : α} {out out' : List Printed}
    (h : Op.run x out = (.ok a, out')) : Op.run (output x) out = (.ok a, out') :=
  Op.run_embed_ok.2 ⟨out', h, rfl⟩

/-- An ASCII text has parts of any lengths that fit into it. -/
theorem ascii_parts {s : String} (h : ∀ c ∈ s.toList, c.utf8Size = 1) {j k : ℕ} (hjk : j + k ≤ s.length) :
    ∃ first middle last : String, s = first ++ middle ++ last ∧ first.utf8ByteSize = j ∧ last.utf8ByteSize = k := by
  have hsize : ∀ cs : List Char, (∀ c ∈ cs, c ∈ s.toList) → (String.ofList cs).utf8ByteSize = cs.length := by
    intro cs hcs
    rw [utf8ByteSize_eq, String.toList_ofList, byteLength_ascii fun c hc => h c (hcs c hc)]
  have hlength : s.toList.length = s.length := String.length_toList
  refine ⟨String.ofList (s.toList.take j), String.ofList ((s.toList.drop j).take (s.length - j - k)),
    String.ofList ((s.toList.drop j).drop (s.length - j - k)), ?_, ?_, ?_⟩
  · rw [String.append_assoc, ← String.ofList_append, ← String.ofList_append, List.take_append_drop,
      List.take_append_drop, String.ofList_toList]
  · rw [hsize _ fun c hc => List.mem_of_mem_take hc, List.length_take]
    omega
  · rw [hsize _ fun c hc => List.mem_of_mem_drop (List.mem_of_mem_drop hc), List.length_drop, List.length_drop]
    omega

/-- A hex text after `0x` is ASCII. -/
theorem hexText_ascii {n : ℕ} (v : Vector UInt8 n) : ∀ c ∈ ("0x" ++ hexEncode v).toList, c.utf8Size = 1 := by
  intro c hc
  rw [String.toList_append, List.mem_append] at hc
  rcases hc with hc | hc
  · have hmark : "0x".toList = ['0', 'x'] := rfl
    rw [hmark, List.mem_pair] at hc
    rcases hc with rfl | rfl
    · rfl
    · rfl
  · exact hexEncode_ascii v c hc

/-- Every table of the demo is whole: its commitments can be cut. -/
theorem printTable_ok (su : Setup K) (hk : k ≤ 3) (out : List Printed) : ∃ printed, su.Table k printed ∧
    Op.run (output (printSignerTable (su.signers k) 2)) out = (.ok (), out ++ printed) := by
  have hsigned : signedOf (su.signers k) = k := by
    obtain rfl | rfl | rfl | rfl : k = 0 ∨ k = 1 ∨ k = 2 ∨ k = 3 := by omega
    · rfl
    · rfl
    · rfl
    · rfl
  rcases signerTable_says (su.signers k) (show 3 < 2 ^ 32 by omega) 2 out with
    ⟨rows, hrows, hrun⟩ | ⟨before, r, after, rows, hsigners, -, hnone, -⟩
  · rw [hsigned, List.append_assoc] at hrun
    exact ⟨_, ⟨rows, hrows, rfl⟩, run_output_ok hrun⟩
  · have hhex : ∀ r ∈ su.signers k, ∃ sk, r.2.1 = "0x" ++ hexEncode (wordBytes (su.commitment sk)) := by
      simp only [Setup.signers, List.forall_mem_cons, List.not_mem_nil, false_implies, implies_true, and_true]
      exact ⟨⟨_, su.commitmentHex_eq _⟩, ⟨_, su.commitmentHex_eq _⟩, ⟨_, su.commitmentHex_eq _⟩⟩
    obtain ⟨sk, hsk⟩ := hhex r (by rw [hsigners]; simp)
    obtain ⟨d, hd⟩ := commitDisplay_ascii (hexText_ascii (wordBytes (su.commitment sk)))
    rw [← hsk] at hd
    exact absurd (commitDisplay_eq_ok.1 hd) (hnone d)

/-- The signature of a key manager is shown in part. -/
theorem excerpt_ok (hK : K.Lawful) (label : String) (km : SimulatedMpcKeyManager K) (w : Word) :
    ∃ text, Excerpt label ("0x" ++ hexEncode (K.sign km.inner w).bytes) text ∧
      ∀ out, Op.run (output (excerpt label (km.signHex w))) out = (.ok (), out ++ [.text text]) := by
  have hlength : ("0x" ++ hexEncode (K.sign km.inner w).bytes).length = 132 := by
    rw [String.length_append, length_hexEncode]
    rfl
  obtain ⟨first, middle, last, hs, hten, hsix⟩ :=
    ascii_parts (hexText_ascii (K.sign km.inner w).bytes) (show 10 + 6 ≤ _ by omega)
  obtain ⟨hfirst, hlast⟩ := cuts_of_parts hs
  rw [hten] at hfirst
  rw [hsix] at hlast
  refine ⟨label ++ first ++ "..." ++ last, ⟨first, middle, last, hs, hten, hsix, rfl⟩, fun out => run_output_ok ?_⟩
  rw [SimulatedMpcKeyManager.signHex, hK.psmSignHex_eq, excerpt, hfirst, hlast]
  simp only [String.ofList_toList]
  exact run_println _ out

theorem run_say (text : String) (out : List Printed) :
    Op.run (output (println (.text text))) out = (.ok (), out ++ [.text text]) := run_output_ok (run_println _ _)

section Asking

variable {α : Type} (m : String) (a : α) (e : Error) (out : List Printed)

theorem run_ask_ok : Op.run (ask (lift (.ok a))) out = (.ok a, out) := rfl

theorem run_ask_error : Op.run (ask (lift (.error e : Except Error α))) out = (.error (.error e), out) := rfl

theorem run_ask_context_ok : Op.run (ask (context m (lift (.ok a)))) out = (.ok a, out) := rfl

theorem run_ask_context_error :
    Op.run (ask (context m (lift (.error e : Except Error α)))) out = (.error (.error (e.context m)), out) := rfl

end Asking

/-- Steps 1 to 3 print the table with no signature. They end well if and only if the client answers. -/
theorem run_createMultisig (su : Setup K) : ∃ t₀ heading, su.Table 0 t₀ ∧
    ((∃ e said, (∀ account, ¬ su.Answers account) ∧
        Op.run (createMultisig su) [] = (.error (.error e), .text heading :: t₀ ++ texts said)) ∨
      ∃ account said, su.Answers account ∧
        Op.run (createMultisig su) [] = (.ok account, .text heading :: t₀ ++ texts said)) := by
  obtain ⟨t₀, ht₀, hrun₀⟩ := printTable_ok su (k := 0) (by omega)
    [.text "=== Step 1: Generate 3 ECDSA K256 Keypairs ==="]
  refine ⟨t₀, "=== Step 1: Generate 3 ECDSA K256 Keypairs ===", ht₀, ?_⟩
  have htable : Op.run (output (printSignerTable [("Signer 1", su.commitmentHex su.km1.inner, false),
      ("Signer 2", su.commitmentHex su.km2.inner, false), ("Signer 3", su.commitmentHex su.km3.inner, false)] 2))
      ([] ++ [.text "=== Step 1: Generate 3 ECDSA K256 Keypairs ==="]) = (.ok (), _) := hrun₀
  unfold createMultisig
  dsimp only
  rw [Op.run_bind_of_ok (run_say _ _), Op.run_bind_of_ok htable, Op.run_bind_of_ok (run_say _ _)]
  cases hendpoint : su.endpoint with
  | error e =>
    refine .inl ⟨e, ["\n=== Step 2: Build MultisigClient ==="], fun account h => ?_, ?_⟩
    · rw [h.1] at hendpoint
      cases hendpoint
    · rw [Op.run_bind_of_error (run_ask_error e _)]
      simp [texts]
  | ok _ =>
    rw [Op.run_bind_of_ok (run_ask_ok _ _)]
    cases hbuild : su.build su.km1.inner with
    | error e =>
      refine .inl ⟨e.context "failed to build MultisigClient", ["\n=== Step 2: Build MultisigClient ==="],
        fun account h => ?_, ?_⟩
      · rw [h.2.1] at hbuild
        cases hbuild
      · rw [Op.run_bind_of_error (run_ask_context_error _ e _)]
        simp [texts]
    | ok _ =>
      rw [Op.run_bind_of_ok (run_ask_context_ok _ _ _), Op.run_bind_of_ok (run_say _ _),
        Op.run_bind_of_ok (run_say _ _)]
      cases haccount : su.createAccount 2
          [su.commitment su.km1.inner, su.commitment su.km2.inner, su.commitment su.km3.inner] with
      | error e =>
        refine .inl ⟨e.context "failed to create multisig account", ["\n=== Step 2: Build MultisigClient ===",
          "MultisigClient built for signer 1", "\n=== Step 3: Create 2-of-3 Multisig Account ==="],
          fun account h => ?_, ?_⟩
        · rw [h.2.2] at haccount
          cases haccount
        · rw [Op.run_bind_of_error (run_ask_context_error _ e _)]
          simp [texts]
      | ok account =>
        refine .inr ⟨account, ["\n=== Step 2: Build MultisigClient ===", "MultisigClient built for signer 1",
          "\n=== Step 3: Create 2-of-3 Multisig Account ===", s!"Multisig account: {account}", "Threshold: 2-of-3"],
          ⟨hendpoint, hbuild, haccount⟩, ?_⟩
        rw [Op.run_bind_of_ok (run_ask_context_ok _ account _), Op.run_bind_of_ok (run_say _ _),
          Op.run_bind_of_ok (run_say _ _), Op.run_pure]
        simp [texts]

/-- Steps 4 and 5 print the two signatures, each with its table. -/
theorem run_demonstrateSigning (hK : K.Lawful) (su : Setup K) (account : AccountId) (out : List Printed) :
    ∃ said s₁ t₁ s₂ t₂ said', su.Table 1 t₁ ∧ su.Table 2 t₂ ∧
      Excerpt "Signer 1 signed: " ("0x" ++ hexEncode (K.sign su.km1.inner (su.commitment su.km1.inner)).bytes) s₁ ∧
      Excerpt "\nSigner 2 signed: " ("0x" ++ hexEncode (K.sign su.km2.inner (su.commitment su.km1.inner)).bytes) s₂ ∧
      Op.run (demonstrateSigning su account) out =
        (.ok (), out ++ .text said :: .text s₁ :: t₁ ++ .text s₂ :: t₂ ++ texts said') := by
  obtain ⟨s₁, hs₁, hrun₁⟩ := excerpt_ok hK "Signer 1 signed: " su.km1 (su.commitment su.km1.inner)
  obtain ⟨s₂, hs₂, hrun₂⟩ := excerpt_ok hK "\nSigner 2 signed: " su.km2 (su.commitment su.km1.inner)
  obtain ⟨t₁, ht₁, htable₁⟩ := printTable_ok su (k := 1) (by omega)
    (out ++ [.text "\n=== Step 4: Demonstrate Signing ==="] ++ [.text s₁])
  obtain ⟨t₂, ht₂, htable₂⟩ := printTable_ok su (k := 2) (by omega)
    (out ++ [.text "\n=== Step 4: Demonstrate Signing ==="] ++ [.text s₁] ++ t₁ ++ [.text s₂])
  refine ⟨"\n=== Step 4: Demonstrate Signing ===", s₁, t₁, s₂, t₂,
    ["\n=== Multisig Demo Complete ===", s!"Account: {account}", "Scheme: ECDSA K256 Keccak",
      "Signers: 3 generated, 2 signed", "\nTo execute a full multisig transaction:",
      "  1. Propose a transaction via client.propose(...)", "  2. Each signer calls client.sign(proposal_id)",
      "  3. Once threshold met, client.execute(proposal_id)"], ht₁, ht₂, hs₁, hs₂, ?_⟩
  have hsigners₁ : su.signers 1 = [("Signer 1", su.commitmentHex su.km1.inner, true),
      ("Signer 2", su.commitmentHex su.km2.inner, false), ("Signer 3", su.commitmentHex su.km3.inner, false)] := rfl
  have hsigners₂ : su.signers 2 = [("Signer 1", su.commitmentHex su.km1.inner, true),
      ("Signer 2", su.commitmentHex su.km2.inner, true), ("Signer 3", su.commitmentHex su.km3.inner, false)] := rfl
  rw [hsigners₁] at htable₁
  rw [hsigners₂] at htable₂
  unfold demonstrateSigning
  dsimp only
  rw [Op.run_bind_of_ok (run_say _ _), Op.run_bind_of_ok (hrun₁ _), Op.run_bind_of_ok htable₁,
    Op.run_bind_of_ok (hrun₂ _), Op.run_bind_of_ok htable₂]
  iterate 7 rw [Op.run_bind_of_ok (run_say _ _)]
  rw [run_say]
  simp [texts]

/-- **What the demo prints**, for all keys and all answers: the table with no signature; and, if and only if the client
is built and creates the account, the signatures of the first two signers, each followed by the table that counts it.
The verdicts are those of 0, 1 and 2 of 3 signatures with the threshold 2. Otherwise the demo ends with an error. It
never panics. -/
theorem main_prints (hK : K.Lawful) (su : Setup K) : ∃ t₀ heading, su.Table 0 t₀ ∧
    ((∃ e said, (∀ account, ¬ su.Answers account) ∧
        Op.run (main su) [] = (.error (.error e), .text heading :: t₀ ++ texts said)) ∨
      ∃ account said s₁ t₁ s₂ t₂ said', su.Answers account ∧ su.Table 1 t₁ ∧ su.Table 2 t₂ ∧
        Excerpt "Signer 1 signed: " ("0x" ++ hexEncode (K.sign su.km1.inner (su.commitment su.km1.inner)).bytes) s₁ ∧
        Excerpt "\nSigner 2 signed: " ("0x" ++ hexEncode (K.sign su.km2.inner (su.commitment su.km1.inner)).bytes) s₂ ∧
        Op.run (main su) [] =
          (.ok (), .text heading :: t₀ ++ texts said ++ .text s₁ :: t₁ ++ .text s₂ :: t₂ ++ texts said')) := by
  obtain ⟨t₀, heading, ht₀, hfirst⟩ := run_createMultisig su
  refine ⟨t₀, heading, ht₀, ?_⟩
  unfold main
  rcases hfirst with ⟨e, said, hnone, hrun⟩ | ⟨account, said, hanswers, hrun⟩
  · exact .inl ⟨e, said, hnone, Op.run_bind_of_error hrun _⟩
  · obtain ⟨step, s₁, t₁, s₂, t₂, said', ht₁, ht₂, hs₁, hs₂, hsigning⟩ := run_demonstrateSigning hK su account
      (.text heading :: t₀ ++ texts said)
    refine .inr ⟨account, said ++ [step], s₁, t₁, s₂, t₂, said', hanswers, ht₁, ht₂, hs₁, hs₂, ?_⟩
    rw [Op.run_bind_of_ok hrun, hsigning]
    simp [texts]

end Runs

/-! ## A run with two keys -/

namespace Sample

open TestVector

/-- The key of the test vector signs first, the other key second. -/
def setup : Setup sdk where
  km1 := .new key
  km2 := .new Key.other
  km3 := .new Key.other
  commitment := keyCommitment
  commitmentHex sk := "0x" ++ hexEncode (wordBytes (keyCommitment sk))
  commitmentHex_eq _ := rfl
  endpoint := .ok ()
  build _ := .ok ()
  createAccount _ _ := .ok ⟨false, 7⟩

end Sample

open TestVector Sample in
/-- It ends well, and the last verdict is that the threshold is met. -/
theorem sample_meets : ∃ out, Op.run (main Sample.setup) [] = (.ok (), out) ∧
    .text "Threshold: 2/3 met ✓" ∈ out := by
  obtain ⟨t₀, heading, -, hcases⟩ := main_prints sdk_lawful Sample.setup
  rcases hcases with ⟨e, said, hnone, -⟩ | ⟨account, said, s₁, t₁, s₂, t₂, said', -, -, ht₂, -, -, hrun⟩
  · exact absurd ⟨rfl, rfl, rfl⟩ (hnone ⟨false, 7⟩)
  · obtain ⟨rows, -, rfl⟩ := ht₂
    refine ⟨_, hrun, ?_⟩
    have hverdict : thresholdText 2 3 2 = "Threshold: 2/3 met ✓" := rfl
    simp [hverdict]

end BraleMiden.Bin.MultisigDemo
