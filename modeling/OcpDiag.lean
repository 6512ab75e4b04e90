import OcpDiag.Lib.Runs
import OcpDiag.Lib.ThreadPool
import OcpDiag.Lib.CriticalSection
import OcpDiag.Lib.Trace
import OcpDiag.Lib.Tickets
import OcpDiag.Lib.BufferedFile
import OcpDiag.Lib.Grouping
import OcpDiag.Lib.Pointwise
import OcpDiag.Lib.Counting
import OcpDiag.Lib.Text
import OcpDiag.Lib.Renumbering
import OcpDiag.Lib.ShellWords
import OcpDiag.Lib.Overrides
import OcpDiag.Lib.GreedyPattern
import OcpDiag.Lib.Window
import OcpDiag.Lib.JsonStrings
import OcpDiag.Lib.JsonValue
import OcpDiag.Lib.JsonTree
import OcpDiag.Lib.JsonText
import OcpDiag.Lib.Replacement
import OcpDiag.Lib.Binary64
import OcpDiag.Results.Outcome
import OcpDiag.Results.InputModel
import OcpDiag.Results.Messages
import OcpDiag.Results.OutputModel
import OcpDiag.Results.IntIncrementer
import OcpDiag.Results.StructValidators
import OcpDiag.Results.StructValidity
import OcpDiag.Results.DutInfo
import OcpDiag.Results.StructToProto
import OcpDiag.Results.ProtoToStruct
import OcpDiag.Results.TestResultCalculator
import OcpDiag.Results.RoundTrip
import OcpDiag.Results.OutputReceiver
import OcpDiag.Results.ModelRebuild
import OcpDiag.Results.ModelContents
import OcpDiag.Results.ArtifactWriter
import OcpDiag.Results.ArtifactOrder
import OcpDiag.Results.CallStep
import OcpDiag.Results.TestStep
import OcpDiag.Results.MeasurementSeries
import OcpDiag.Results.TestRun
import OcpDiag.Results.Process
import OcpDiag.Results.ResultFile
import OcpDiag.Results.ProcessMoves
import OcpDiag.Results.Mutexes
import OcpDiag.Results.NoFalsePass
import OcpDiag.Results.DutOwnership
import OcpDiag.Results.RunStart
import OcpDiag.Results.StepBracketing
import OcpDiag.Results.StepStatus
import OcpDiag.Results.SeriesFraming
import OcpDiag.Results.SeriesTypes
import OcpDiag.Results.StreamFraming
import OcpDiag.Results.References
import OcpDiag.Results.MainArgs
import OcpDiag.Results.ParameterJson
import OcpDiag.Results.ExpandedJson
import OcpDiag.Results.LimitValidators
import OcpDiag.Results.WriterShutdown
import OcpDiag.HwInterface.Status
import OcpDiag.HwInterface.HwInfo
import OcpDiag.HwInterface.IdTranslation
import OcpDiag.HwInterface.LocalSearch
import OcpDiag.HwInterface.MemoryConvert
import OcpDiag.HwInterface.MemoryCoverage
import OcpDiag.HwInterface.Utils
import OcpDiag.HwInterface.RangeList
import OcpDiag.HwInterface.RangeParse
import OcpDiag.HwInterface.Cpu
import OcpDiag.HwInterface.CpuGather
import OcpDiag.HwInterface.CpuIdentity
import OcpDiag.HwInterface.SysfsTree
import OcpDiag.HwInterface.CpuCounts
import OcpDiag.HwInterface.RasErrors
import OcpDiag.HwInterface.ErrorEvents
import OcpDiag.HwInterface.HostAdapter
import OcpDiag.HwInterface.StorageInfo
import OcpDiag.HwInterface.RemoteCommand
import OcpDiag.HwInterface.RemoteFile
import OcpDiag.HwInterface.SshPath
import OcpDiag.HwInterface.Config
import OcpDiag.HwInterface.NodeOverrides
import OcpDiag.HwInterface.NodeClient
import OcpDiag.HwInterface.ServiceFlags
import OcpDiag.HwInterface.FlagRoundTrip
import OcpDiag.HwInterface.OverrideSyntax
import OcpDiag.HwInterface.CachePolicyText
import OcpDiag.HwInterface.QueryOverrides
import OcpDiag.HwInterface.RasReport
import OcpDiag.HwInterface.StorageQueries
import OcpDiag.HwInterface.RangeExpansion
import OcpDiag.HwInterface.CpuInfo
import OcpDiag.HwInterface.CpuSections
import OcpDiag.HwInterface.DriveCapabilities
import OcpDiag.HwInterface.HostPort
import OcpDiag.HwInterface.PythonSsh
import OcpDiag.Results.CallsReturn
import OcpDiag.Results.FinalOutcome
import OcpDiag.Results.Delivery
import OcpDiag.Results.ReadBack
import OcpDiag.Results.ReportedModel
import OcpDiag.Results.OutputIterator
import OcpDiag.Lib.OnceCell
import OcpDiag.HwInterface.MemoryInfo
import OcpDiag.HwInterface.MemoryReport
import OcpDiag.HwInterface.NodeInfo
import OcpDiag.HwInterface.HostBackend
import OcpDiag.Lib.MapFill
import OcpDiag.HwInterface.CpuAgreement
import OcpDiag.HwInterface.LoadConfigs
import OcpDiag.Lib.Traversal
import OcpDiag.HwInterface.CreateClients
import OcpDiag.Lib.Partition
import OcpDiag.Results.SeriesTickets
import OcpDiag.Results.SeriesModel
import OcpDiag.Lib.Polling
import OcpDiag.HwInterface.ProcessRestart
import OcpDiag.HwInterface.IdentifierFilters
import OcpDiag.HwInterface.RemoteFactory
import OcpDiag.HwInterface.PythonFiles
