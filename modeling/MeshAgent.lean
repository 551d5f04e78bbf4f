import MeshAgent.Foundations.ByteMemory
import MeshAgent.Foundations.MachineInt
import MeshAgent.Foundations.Runs
import MeshAgent.Foundations.TracedLoop
import MeshAgent.Foundations.Framing
import MeshAgent.Foundations.Scanning
import MeshAgent.Foundations.PercentCoding
import MeshAgent.Foundations.JsonLines
import MeshAgent.Foundations.LengthPrefix
import MeshAgent.Foundations.BoundedFifo
import MeshAgent.Foundations.Tally
import MeshAgent.Foundations.SharedBuffer
import MeshAgent.Foundations.CString
import MeshAgent.Foundations.SlidingWindow
import MeshAgent.Foundations.CarriedItems
import MeshAgent.Model.Utils
import MeshAgent.Model.FrameBuffer
import MeshAgent.Model.Tokenizer
import MeshAgent.Model.BlockQueue
import MeshAgent.Model.HardCodedPackage
import MeshAgent.Model.LoadBalancer
import MeshAgent.Model.ProviderAgent
import MeshAgent.Model.RelayTeardown
import MeshAgent.Model.ConsumerAgent
import MeshAgent.Model.ConsumerSystem
import MeshAgent.Model.Admission
import MeshAgent.Model.WriteQueue
import MeshAgent.Model.ServerUri
import MeshAgent.Model.HttpReqQueue
import MeshAgent.Model.EndpointTables
import MeshAgent.Model.Mesh
import MeshAgent.Model.CopiedMesh
import MeshAgent.Model.SendingMesh
import MeshAgent.Proofs.VectorScan
import MeshAgent.Proofs.Splitter
import MeshAgent.Proofs.FormBody
import MeshAgent.Proofs.Serialization
import MeshAgent.Proofs.Transcoding
import MeshAgent.Proofs.BodyDecoding
import MeshAgent.Proofs.FrameBuffer
import MeshAgent.Proofs.ReplyHandling
import MeshAgent.Proofs.Reassembly
import MeshAgent.Proofs.ReassemblyEnds
import MeshAgent.Proofs.ClientCall
import MeshAgent.Proofs.RequestDispatch
import MeshAgent.Proofs.RelayCapacity
import MeshAgent.Proofs.ConsumerSteps
import MeshAgent.Proofs.IdTable
import MeshAgent.Proofs.StreamFrames
import MeshAgent.Proofs.ConsumerProgress
import MeshAgent.Proofs.RecordLifetime
import MeshAgent.Proofs.ReplyRouting
import MeshAgent.Proofs.EndpointSelection
import MeshAgent.Proofs.InFlight
import MeshAgent.Proofs.BlockQueue
import MeshAgent.Proofs.EncoderAgreement
import MeshAgent.Proofs.RelayAnswers
import MeshAgent.Proofs.RequestIds
import MeshAgent.Proofs.ListenGate
import MeshAgent.Proofs.StreamOrigins
import MeshAgent.Proofs.RelayTeardown
import MeshAgent.Proofs.Admission
import MeshAgent.Proofs.WriteQueue
import MeshAgent.Proofs.LatencyWindow
import MeshAgent.Proofs.EndpointBounds
import MeshAgent.Proofs.ServerUri
import MeshAgent.Proofs.ResultAnswer
import MeshAgent.Proofs.OffsetTable
import MeshAgent.Proofs.PackageSize
import MeshAgent.Proofs.ServiceName
import MeshAgent.Proofs.SplitterSafety
import MeshAgent.Proofs.RequestIsolation
import MeshAgent.Proofs.ByteCounter
import MeshAgent.Proofs.HttpReqQueue
import MeshAgent.Proofs.EndpointTables
import MeshAgent.Proofs.PipelinedRequests
import MeshAgent.Proofs.FrameEffect
import MeshAgent.Proofs.BlockQueueThreads
import MeshAgent.Proofs.AtomicInteger
import MeshAgent.Proofs.MeshLinks
import MeshAgent.Proofs.LinkSteps
import MeshAgent.Proofs.DistinctIds
import MeshAgent.Proofs.MeshSteps
import MeshAgent.Proofs.MeshInvariant
import MeshAgent.Proofs.RelaySteps
import MeshAgent.Proofs.MeshRuns
import MeshAgent.Proofs.MeshComplete
import MeshAgent.Proofs.SendingQueues
import MeshAgent.Proofs.SendingMesh
import MeshAgent.Proofs.SendingResults
import MeshAgent.Proofs.DeliveryRank
import MeshAgent.Proofs.MeshDelivery
import MeshAgent.Proofs.SendingDelivery
import MeshAgent.Proofs.RemoteCalls
import MeshAgent.Proofs.DecimalText
