import BraleMiden.Lib.Systems
import BraleMiden.Chain.Atomicity
import BraleMiden.Chain.Refinement
import BraleMiden.Chain.Deposits
import BraleMiden.Chain.History
import BraleMiden.Operations.Metadata
import BraleMiden.Operations.Requests
import BraleMiden.Operations.Polling
import BraleMiden.Chain.Books
import BraleMiden.Network.Interleaving
import BraleMiden.Network.Ownership
import BraleMiden.Network.Payments
import BraleMiden.Network.Alone
import BraleMiden.Signing.Agreement
import BraleMiden.Signing.Texts
import BraleMiden.Signing.Authority
import BraleMiden.Bin.Arguments
import BraleMiden.Bin.FullDemo.Success
import BraleMiden.Bin.MultisigDemo
import BraleMiden.Bin.Tools
import BraleMiden.Display.SignerTable
