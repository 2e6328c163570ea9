import EscSideChain.DposPoolConsistency
import EscSideChain.PbftAgreement
import EscSideChain.PreExecutionFaults
import EscSideChain.PbftSealMalleability
import EscSideChain.PbftSealVerdicts
import EscSideChain.BlockAgreement
import EscSideChain.PbftPoolShortcut
import EscSideChain.BodyValidation
import EscSideChain.DposDutyOrder
import EscSideChain.DposViewPolling
import EscSideChain.PbftAdoptedConfirms
import EscSideChain.PbftRejections
import EscSideChain.PbftDutyFlag
import EscSideChain.RefundCollection
import EscSideChain.SmallCrossCodec
import EscSideChain.RechargeSubmitter
import EscSideChain.SmallCrossSuccess
import EscSideChain.RechargeRounds
import EscSideChain.SenderCache
import EscSideChain.RewindTarget
import EscSideChain.NextTurnRecord
import EscSideChain.StrictTxList
import EscSideChain.DataGas
import EscSideChain.GasAccounts
import EscSideChain.PeerMessages
import EscSideChain.PbftResetRequests
import EscSideChain.PbftRequestEvents
import EscSideChain.DposRouteRuns
import EscSideChain.ConsensusStatusCodec
import EscSideChain.EvilJournal
import EscSideChain.PledgedBill
import EscSideChain.SignaturePrecompiles
import EscSideChain.DArbiterCodec
import EscSideChain.BridgeSignatures
import EscSideChain.HeaderFinality
import EscSideChain.EngineChoice
import EscSideChain.BridgeArbiters
import EscSideChain.TxBatches
