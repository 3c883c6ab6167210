import Coproto.Lib.Channels
import Coproto.Lib.Chunks
import Coproto.Lib.Custody
import Coproto.Lib.Heap
import Coproto.Lib.Keyed
import Coproto.Lib.Ledger
import Coproto.Lib.Linked
import Coproto.Lib.LittleEndian
import Coproto.Lib.LowBits
import Coproto.Lib.Pieces
import Coproto.Lib.Queues
import Coproto.Lib.Relay
import Coproto.Lib.Ring
import Coproto.Lib.Runs
import Coproto.Lib.Smear
import Coproto.Lib.Traces
import Coproto.Source.Awaiters
import Coproto.Source.BufferingSocket
import Coproto.Source.CBQueue
import Coproto.Source.CLP
import Coproto.Source.Duplex
import Coproto.Source.ErrorCode
import Coproto.Source.ExecutionQueue
import Coproto.Source.ForkTable
import Coproto.Source.InlinePoly
import Coproto.Source.Link
import Coproto.Source.LocalAsyncSock
import Coproto.Source.Operation
import Coproto.Source.Party
import Coproto.Source.Queue
import Coproto.Source.Scheduler
import Coproto.Source.SessionID
import Coproto.Source.State
import Coproto.Source.StopThreads
import Coproto.Source.TlsConnect
import Coproto.Source.Wire
import Coproto.Invariants.Base
import Coproto.Invariants.Buffering
import Coproto.Invariants.Conversation
import Coproto.Invariants.EnterError
import Coproto.Invariants.ExecutionQueue
import Coproto.Invariants.ForkTable
import Coproto.Invariants.Frames
import Coproto.Invariants.Framing
import Coproto.Invariants.Listen
import Coproto.Invariants.LocalAsync
import Coproto.Invariants.Messages
import Coproto.Invariants.Paths
import Coproto.Invariants.Plain
import Coproto.Invariants.PlainInv
import Coproto.Invariants.PlainOrder
import Coproto.Invariants.PlainRuns
import Coproto.Invariants.QueueBlock
import Coproto.Invariants.QueueChain
import Coproto.Invariants.QueueIterator
import Coproto.Invariants.QueueOk
import Coproto.Invariants.QueueStep
import Coproto.Invariants.RecvBooks
import Coproto.Invariants.RecvFaults
import Coproto.Invariants.RecvFront
import Coproto.Invariants.RecvInv
import Coproto.Invariants.RecvSide
import Coproto.Invariants.RecvStep
import Coproto.Invariants.Returns
import Coproto.Invariants.Scheduled
import Coproto.Invariants.SendBooks
import Coproto.Invariants.SendChain
import Coproto.Invariants.SendInv
import Coproto.Invariants.SendOrder
import Coproto.Invariants.SendSide
import Coproto.Invariants.SendStep
import Coproto.Invariants.SendTail
import Coproto.Invariants.Sessions
import Coproto.Invariants.StopTokens
import Coproto.Invariants.Stream
import Coproto.Invariants.TableStep
import Coproto.Invariants.Talk
import Coproto.Invariants.Traces
import Coproto.Guarantees.BufferOwnership
import Coproto.Guarantees.Buffering
import Coproto.Guarantees.BufferingClose
import Coproto.Guarantees.CLPRanges
import Coproto.Guarantees.CallbackQueue
import Coproto.Guarantees.Channels
import Coproto.Guarantees.Delivery
import Coproto.Guarantees.Destruction
import Coproto.Guarantees.ErrorCodes
import Coproto.Guarantees.ErrorDrain
import Coproto.Guarantees.ExecutionQueue
import Coproto.Guarantees.ForkAgreement
import Coproto.Guarantees.ForkTables
import Coproto.Guarantees.LocalAsync
import Coproto.Guarantees.LockCycle
import Coproto.Guarantees.ObjectLifetimes
import Coproto.Guarantees.PayloadLength
import Coproto.Guarantees.QueueBack
import Coproto.Guarantees.QueueErase
import Coproto.Guarantees.QueueList
import Coproto.Guarantees.QueueReserve
import Coproto.Guarantees.RecvParking
import Coproto.Guarantees.SendList
import Coproto.Guarantees.Settled
import Coproto.Guarantees.SiblingIds
import Coproto.Guarantees.SocketClose
import Coproto.Guarantees.TlsConnect
import Coproto.Guarantees.Transfers
