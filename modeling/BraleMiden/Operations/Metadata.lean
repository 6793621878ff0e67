import BraleMiden.Operations.Issuer

/-!
# What the metadata of an issuer are read as

`read_token_metadata` on an arbitrary word in the metadata slot, as an issuer deployed by other software may have it.
The reader takes the low eight bits of the second element and does not look at the fourth.

* `encode_ofWord_iff`: what is read encodes back to the word if and only if its second element fits in eight bits and
  its fourth is zero;
* `readsExactly_iff`: so of the words with a symbol, these are read exactly, and all others are misread.
-/

namespace BraleMiden

open Effects

section Metadata

variable {σ : Type} {sdk : Standards}

/-- The word of the metadata, as `BasicFungibleFaucet` lays it out: `[max_supply, decimals, symbol, 0]`. -/
def TokenMetadata.encode (m : TokenMetadata sdk) : Word := sdk.metadataWord m.symbol m.decimals (Felt.new m.maxSupply)

/-- Decoding a symbol accepts exactly the elements that encoding produces, and inverts it. -/
structure Standards.SymbolCodec (sdk : Standards) : Prop where
  tryFrom_ok : ∀ {x t}, sdk.symbolTryFrom x = .ok t ↔ sdk.symbolFelt t = x

/-! ## Words, element by element -/

/-- A word is given by its four elements. -/
theorem word_eq_iff {w : Word} {a b c d : Felt} :
    #v[a, b, c, d] = w ↔ a = w.get 0 ∧ b = w.get 1 ∧ c = w.get 2 ∧ d = w.get 3 := by
  constructor
  · rintro rfl
    exact ⟨rfl, rfl, rfl, rfl⟩
  · rintro ⟨ha, hb, hc, hd⟩
    apply Vector.ext
    intro i hi
    match i with
    | 0 => exact ha
    | 1 => exact hb
    | 2 => exact hc
    | 3 => exact hd

/-- The low eight bits give the element back if and only if it fits in them. -/
theorem Felt.new_toUInt8_iff {x : Felt} : Felt.new x.asInt.toUInt8.toUInt64 = x ↔ x.val < 256 := by
  have hval : (Felt.new x.asInt.toUInt8.toUInt64).val = x.val % 256 := by
    have hbyte : x.val % 256 < feltModulus := Nat.lt_trans (Nat.mod_lt _ (by decide)) (by decide)
    rw [Felt.new_val, UInt8.toNat_toUInt64, UInt64.toNat_toUInt8, Felt.asInt_toNat]
    exact Nat.mod_eq_of_lt hbyte
  rw [Fin.ext_iff, hval]
  omega

/-- What is read from a word with a symbol encodes back to the word if and only if nothing was dropped. -/
theorem encode_ofWord_iff (hsdk : sdk.SymbolCodec) {w : Word} {t : sdk.TokenSymbol}
    (ht : sdk.symbolTryFrom (w.get 2) = .ok t) :
    (TokenMetadata.ofWord t w).encode = w ↔ (w.get 1).val < 256 ∧ w.get 3 = 0 := by
  have hsymbol : sdk.symbolFelt t = w.get 2 := hsdk.tryFrom_ok.1 ht
  have hsupply : Felt.new (w.get 0).asInt = w.get 0 := Felt.new_asInt _
  rw [TokenMetadata.encode, Standards.metadataWord, word_eq_iff]
  simp only [TokenMetadata.ofWord, hsymbol, hsupply, Felt.new_toUInt8_iff, true_and]
  rw [eq_comm (a := (0 : Felt))]

/-! ## Reading exactly -/

/-- The word `w` in the metadata slot of `a` is never read as other metadata: what is read encodes to `w`, and a word
that nothing encodes to is refused. -/
structure ReadsExactly (c : Client σ) (sdk : Standards) (a : AccountId) (s : σ) (w : Word) : Prop where
  encodes : ∀ m u, Op.run (readTokenMetadata c sdk a) s = (.ok m, u) → m.encode = w
  refuses : (∀ m : TokenMetadata sdk, m.encode ≠ w) → ∃ e u, Op.run (readTokenMetadata c sdk a) s = (.error e, u)

/-- **Reading token metadata.** Whatever word the metadata slot holds, it is read exactly if and only if its third
element is not a symbol (it is refused), or its second element fits in eight bits and its fourth is zero. -/
theorem readsExactly_iff {c : Client σ} {a : AccountId} {acc : Account} {w : Word} {s s' : σ} (hsdk : sdk.SymbolCodec)
    (hacc : Op.run (c.getAccount a) s = (.ok (some (.full acc)), s')) (hw : acc.getItem .metadata = .ok w) :
    ReadsExactly c sdk a s w ↔ (∀ t, sdk.symbolFelt t ≠ w.get 2) ∨ (w.get 1).val < 256 ∧ w.get 3 = 0 := by
  constructor
  · intro hexact
    by_cases hsymbol : ∃ t, sdk.symbolFelt t = w.get 2
    · obtain ⟨t, ht⟩ := hsymbol
      have hok : sdk.symbolTryFrom (w.get 2) = .ok t := hsdk.tryFrom_ok.2 ht
      have hread := (run_readTokenMetadata_ok hacc hw).2 ⟨t, hok, rfl, rfl⟩
      exact .inr ((encode_ofWord_iff hsdk hok).1 (hexact.encodes _ _ hread))
    · exact .inl (not_exists.1 hsymbol)
  · intro hcond
    have hencodes : ∀ m u, Op.run (readTokenMetadata c sdk a) s = (.ok m, u) → m.encode = w := by
      intro m u hread
      obtain ⟨t, ht, rfl, -⟩ := (run_readTokenMetadata_ok hacc hw).1 hread
      obtain hnone | hexact := hcond
      · exact absurd (hsdk.tryFrom_ok.1 ht) (hnone t)
      · exact (encode_ofWord_iff hsdk ht).2 hexact
    refine ⟨hencodes, fun hnone => ?_⟩
    cases hrun : Op.run (readTokenMetadata c sdk a) s with
    | mk r u =>
      cases r with
      | error e => exact ⟨e, u, rfl⟩
      | ok m => exact absurd (hencodes m u hrun) (hnone m)

end Metadata

/-! ## Issuers of other software -/

namespace Usdb

theorem sdk_symbolCodec : sdk.SymbolCodec where
  tryFrom_ok := by
    intro x t
    simp only [sdk]
    split
    · rename_i hx
      exact ⟨fun _ => hx.symm, fun _ => rfl⟩
    · rename_i hx
      refine ⟨fun h => ?_, fun h => absurd h.symm hx⟩
      cases h

/-- An issuer with the symbol `USDB` and these other elements in its metadata slot. -/
def issuerWith (maxSupply decimals last : Felt) : Account where
  id := ⟨true, 1⟩
  getBalance _ := .ok 0
  getItem
    | .faucetSysdata => .ok (Vector.replicate 4 0)
    | .metadata => .ok #v[maxSupply, decimals, 9457946, last]

end Usdb

/-- The word of a standard issuer is read exactly. -/
theorem usdb_readsExactly : ReadsExactly Usdb.client.toClient Usdb.sdk ⟨true, 1⟩ [Usdb.issuerWith 1000 6 0]
    #v[1000, 6, 9457946, 0] := by
  have hstored : Op.run (Usdb.client.getAccount ⟨true, 1⟩) [Usdb.issuerWith 1000 6 0] =
    (.ok (some (.full (Usdb.issuerWith 1000 6 0))), [Usdb.issuerWith 1000 6 0]) := rfl
  exact (readsExactly_iff Usdb.sdk_symbolCodec hstored rfl).2 (.inr (by decide))

/-- An issuer with 262 decimals is read as one with 6. -/
theorem decimals_misread :
    Op.run (readTokenMetadata Usdb.client.toClient Usdb.sdk ⟨true, 1⟩) [Usdb.issuerWith 1000 262 0] =
        (.ok ⟨(), 6, 1000⟩, [Usdb.issuerWith 1000 262 0]) ∧
      ¬ ReadsExactly Usdb.client.toClient Usdb.sdk ⟨true, 1⟩ [Usdb.issuerWith 1000 262 0]
        #v[1000, 262, 9457946, 0] := by
  have hread : Op.run (readTokenMetadata Usdb.client.toClient Usdb.sdk ⟨true, 1⟩) [Usdb.issuerWith 1000 262 0] =
      (.ok ⟨(), 6, 1000⟩, [Usdb.issuerWith 1000 262 0]) := rfl
  refine ⟨hread, fun hexact => ?_⟩
  have hword := hexact.encodes _ _ hread
  exact absurd hword (by decide)

end BraleMiden
