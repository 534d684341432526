import CredenceContracts.Admin.ActiveCount
import CredenceContracts.Admin.Contract
import CredenceContracts.Admin.Effectiveness
import CredenceContracts.Admin.Floor
import CredenceContracts.Admin.Freeze
import CredenceContracts.Admin.Hierarchy
import CredenceContracts.Admin.Integrity
import CredenceContracts.Admin.Ownership
import CredenceContracts.Admin.Spec
import CredenceContracts.Arbitration.Ballots
import CredenceContracts.Arbitration.Contract
import CredenceContracts.Arbitration.Freeze
import CredenceContracts.Arbitration.Lifecycle
import CredenceContracts.Arbitration.Pages
import CredenceContracts.Arbitration.Resolution
import CredenceContracts.Arbitration.Spec
import CredenceContracts.Arbitration.Weights
import CredenceContracts.Arbitration.Winner
import CredenceContracts.Attestation.Batch
import CredenceContracts.Attestation.Contract
import CredenceContracts.Attestation.Duplicates
import CredenceContracts.Attestation.Index
import CredenceContracts.Attestation.Nonces
import CredenceContracts.Attestation.Pages
import CredenceContracts.Attestation.Reentrancy
import CredenceContracts.Attestation.Spec
import CredenceContracts.Attestation.Weight
import CredenceContracts.Bond.Account
import CredenceContracts.Bond.Authority
import CredenceContracts.Bond.BatchBonds
import CredenceContracts.Bond.Change
import CredenceContracts.Bond.ClaimExpiry
import CredenceContracts.Bond.ClaimLedger
import CredenceContracts.Bond.ClaimPages
import CredenceContracts.Bond.ClaimPayment
import CredenceContracts.Bond.ClaimRecords
import CredenceContracts.Bond.ClaimSpec
import CredenceContracts.Bond.Claims
import CredenceContracts.Bond.Closing
import CredenceContracts.Bond.Contract
import CredenceContracts.Bond.Custody
import CredenceContracts.Bond.Deposits
import CredenceContracts.Bond.EarlyExit
import CredenceContracts.Bond.Entries
import CredenceContracts.Bond.Fees
import CredenceContracts.Bond.Finality
import CredenceContracts.Bond.Funds
import CredenceContracts.Bond.Idempotency
import CredenceContracts.Bond.Indexer
import CredenceContracts.Bond.Isolation
import CredenceContracts.Bond.Linear
import CredenceContracts.Bond.Lock
import CredenceContracts.Bond.Lockup
import CredenceContracts.Bond.Normalization
import CredenceContracts.Bond.ParameterEvents
import CredenceContracts.Bond.Parameters
import CredenceContracts.Bond.Pausable
import CredenceContracts.Bond.Penalty
import CredenceContracts.Bond.Published
import CredenceContracts.Bond.Reentrancy
import CredenceContracts.Bond.Release
import CredenceContracts.Bond.Requests
import CredenceContracts.Bond.SafeToken
import CredenceContracts.Bond.SameLedger
import CredenceContracts.Bond.SlashAmounts
import CredenceContracts.Bond.SlashHistory
import CredenceContracts.Bond.Slashing
import CredenceContracts.Bond.Solvency
import CredenceContracts.Bond.Spec
import CredenceContracts.Bond.SplitExit
import CredenceContracts.Bond.Storage
import CredenceContracts.Bond.Terms
import CredenceContracts.Bond.TierEvents
import CredenceContracts.Bond.TierOrder
import CredenceContracts.Bond.Views
import CredenceContracts.Delegation.Contract
import CredenceContracts.Delegation.Domains
import CredenceContracts.Delegation.Freeze
import CredenceContracts.Delegation.Grace
import CredenceContracts.Delegation.Messages
import CredenceContracts.Delegation.Pausable
import CredenceContracts.Delegation.PauseProposals
import CredenceContracts.Delegation.PauseSigners
import CredenceContracts.Delegation.PauseSpec
import CredenceContracts.Delegation.Records
import CredenceContracts.Delegation.Replay
import CredenceContracts.Delegation.Spec
import CredenceContracts.Delegation.Ttl
import CredenceContracts.Delegation.Validity
import CredenceContracts.Drain.Contract
import CredenceContracts.Drain.Discipline
import CredenceContracts.Emergency.Contract
import CredenceContracts.Emergency.Trail
import CredenceContracts.Evidence.Contract
import CredenceContracts.Evidence.Log
import CredenceContracts.Governance.Contract
import CredenceContracts.Governance.Docket
import CredenceContracts.Governance.Quorum
import CredenceContracts.Governance.Votes
import CredenceContracts.Library.Body
import CredenceContracts.Library.Cells
import CredenceContracts.Library.Docket
import CredenceContracts.Library.Escrow
import CredenceContracts.Library.Firsts
import CredenceContracts.Library.Flags
import CredenceContracts.Library.Framing
import CredenceContracts.Library.Freeze
import CredenceContracts.Library.Heaviest
import CredenceContracts.Library.IndexedLog
import CredenceContracts.Library.IntegerRounding
import CredenceContracts.Library.Journal
import CredenceContracts.Library.LogReading
import CredenceContracts.Library.MachineInt
import CredenceContracts.Library.OffsetReading
import CredenceContracts.Library.Onset
import CredenceContracts.Library.Outcome
import CredenceContracts.Library.Paging
import CredenceContracts.Library.Pairing
import CredenceContracts.Library.Proportion
import CredenceContracts.Library.Reentrancy
import CredenceContracts.Library.Rescaling
import CredenceContracts.Library.Roster
import CredenceContracts.Library.Run
import CredenceContracts.Library.Sift
import CredenceContracts.Library.Sweep
import CredenceContracts.Library.Tally
import CredenceContracts.Library.Totals
import CredenceContracts.Math.BasisPoints
import CredenceContracts.Math.MulDiv
import CredenceContracts.Multisig.Contract
import CredenceContracts.Multisig.Freeze
import CredenceContracts.Multisig.Once
import CredenceContracts.Multisig.Pruning
import CredenceContracts.Multisig.Quorum
import CredenceContracts.Multisig.Signers
import CredenceContracts.Multisig.Spec
import CredenceContracts.Registry.Bijection
import CredenceContracts.Registry.Contract
import CredenceContracts.Registry.Freeze
import CredenceContracts.Registry.Idempotency
import CredenceContracts.Registry.Pages
import CredenceContracts.Registry.Spec
import CredenceContracts.Registry.Trustless
import CredenceContracts.Scanner.Contract
import CredenceContracts.Scanner.Coverage
import CredenceContracts.Scanner.Cursor
import CredenceContracts.Scanner.Spec
import CredenceContracts.Soroban.Host
import CredenceContracts.Soroban.Lifetime
import CredenceContracts.Soroban.Pausable
import CredenceContracts.Soroban.PauseLift
import CredenceContracts.Soroban.PauseSpec
import CredenceContracts.Soroban.Token
import CredenceContracts.Template.Contract
import CredenceContracts.Template.Leases
import CredenceContracts.Timelock.Contract
import CredenceContracts.Timelock.Guarantee
import CredenceContracts.Treasury.Authority
import CredenceContracts.Treasury.Contract
import CredenceContracts.Treasury.Freeze
import CredenceContracts.Treasury.Lifecycle
import CredenceContracts.Treasury.Outflow
import CredenceContracts.Treasury.PauseQuorum
import CredenceContracts.Treasury.Quorum
import CredenceContracts.Treasury.Receipts
import CredenceContracts.Treasury.Reconciliation
import CredenceContracts.Treasury.Solvency
import CredenceContracts.Treasury.Spec
import CredenceContracts.Upgrade.Contract
import CredenceContracts.Upgrade.Execution
import CredenceContracts.Upgrade.Proposals
import CredenceContracts.Upgrade.Spec
import CredenceContracts.Upgrade.Upgraders
import CredenceContracts.Verifier.Careers
import CredenceContracts.Verifier.Contract
import CredenceContracts.Verifier.Spec
import CredenceContracts.Verifier.Stake
