import ImagePipeline.Library.Machine
import ImagePipeline.Library.FifoLog
import ImagePipeline.Library.Traced
import ImagePipeline.Library.Stateful
import ImagePipeline.Library.Itemwise
import ImagePipeline.Library.Readable
import ImagePipeline.Library.Raster
import ImagePipeline.Common.Text
import ImagePipeline.Common.Json
import ImagePipeline.Common.JsonValues
import ImagePipeline.Common.Models
import ImagePipeline.Common.JobRepository
import ImagePipeline.Common.Jsonb
import ImagePipeline.Common.JsonText
import ImagePipeline.Common.JsonPrinter
import ImagePipeline.Common.JsonReading
import ImagePipeline.Common.Doubles
import ImagePipeline.Common.Calls
import ImagePipeline.Common.Stores
import ImagePipeline.Common.Retry
import ImagePipeline.Api.Pipeline
import ImagePipeline.Api.PipelineGrammar
import ImagePipeline.Api.CreateJob
import ImagePipeline.Api.CreateJobCases
import ImagePipeline.Api.CreateJobEndings
import ImagePipeline.Api.Submit
import ImagePipeline.Api.SubmitServed
import ImagePipeline.Api.GetJob
import ImagePipeline.Worker.ImageProcessor
import ImagePipeline.Worker.Operations
import ImagePipeline.Worker.Rasters
import ImagePipeline.Worker.RunOnce
import ImagePipeline.Worker.RunOnceCases
import ImagePipeline.Worker.LogEvents
import ImagePipeline.Worker.PassLength
import ImagePipeline.Worker.Pass
import ImagePipeline.Worker.PassStages
import ImagePipeline.Worker.PassServed
import ImagePipeline.Benchmark.QueueDrain
import ImagePipeline.Benchmark.ClusterRunner
import ImagePipeline.Cluster.State
import ImagePipeline.Cluster.Steps
import ImagePipeline.Cluster.Ownership
import ImagePipeline.Cluster.Statuses
import ImagePipeline.Properties.Charging
import ImagePipeline.Properties.Delivery
import ImagePipeline.Properties.Idempotency
import ImagePipeline.Properties.ResultIntegrity
import ImagePipeline.Properties.Visibility
import ImagePipeline.Properties.Admission
import ImagePipeline.Properties.WorkerStops
import ImagePipeline.Properties.Records
import ImagePipeline.Properties.Starvation
import ImagePipeline.Properties.Settlement
import ImagePipeline.Properties.Finality
import ImagePipeline.Properties.Scheduling
import ImagePipeline.Properties.QueueClient
import ImagePipeline.Properties.StorageRoundTrip
import ImagePipeline.Properties.Execution
import ImagePipeline.Properties.RequestHash
import ImagePipeline.Properties.Leftovers
import ImagePipeline.Properties.FrontEnd
import ImagePipeline.Properties.LoadEnd
import ImagePipeline.Properties.WorkerContainers
import ImagePipeline.Properties.WorkerLoad
import ImagePipeline.Properties.WorkerPass
import ImagePipeline.Properties.Retrying
import ImagePipeline.Properties.RegionFrame
import ImagePipeline.Properties.Unrolling
import ImagePipeline.Library.Draining
import ImagePipeline.Benchmark.Samples
import ImagePipeline.Benchmark.QueueMetrics
import ImagePipeline.Properties.DrainReport
import ImagePipeline.Properties.DrainTime
import ImagePipeline.Properties.BlankSamples
import ImagePipeline.Properties.Lookups
import ImagePipeline.Properties.KeylessRequests
import ImagePipeline.Benchmark.SweepRows
import ImagePipeline.Benchmark.SweepReport
import ImagePipeline.Benchmark.CompareSweeps
import ImagePipeline.Properties.Stability
import ImagePipeline.Properties.SweepComparison
import ImagePipeline.Library.Groups
import ImagePipeline.Loadtest.Jobs
import ImagePipeline.Loadtest.Outcomes
import ImagePipeline.Benchmark.Workload
import ImagePipeline.Properties.LoadAccounting
import ImagePipeline.Library.RaisingSort
import ImagePipeline.Library.WeightedDraw
import ImagePipeline.Library.Rounding
import ImagePipeline.Common.JsonLoads
import ImagePipeline.Common.JsonLayout
import ImagePipeline.Common.UnicodeEscape
import ImagePipeline.Benchmark.NodeConfig
import ImagePipeline.Benchmark.WorkerTotals
import ImagePipeline.Benchmark.WorkerSummary
import ImagePipeline.Benchmark.HostStats
import ImagePipeline.Benchmark.Durations
import ImagePipeline.Benchmark.LogLines
import ImagePipeline.Benchmark.ErrorTimeline
import ImagePipeline.Benchmark.ThroughputTimeline
import ImagePipeline.Loadtest.JsonStringify
import ImagePipeline.Loadtest.Profiles
import ImagePipeline.Loadtest.GoQuote
import ImagePipeline.Loadtest.JsonReadBack
import ImagePipeline.Benchmark.JsonTokens
import ImagePipeline.Benchmark.JsonFiles
import ImagePipeline.Benchmark.RunConfigFile
import ImagePipeline.Benchmark.ContainerLogs
import ImagePipeline.Loadtest.ErrorLog
import ImagePipeline.Properties.ClusterValidation
import ImagePipeline.Properties.WorkerTotals
import ImagePipeline.Properties.WorkerSummary
import ImagePipeline.Properties.TaskSelection
import ImagePipeline.Properties.HostAnalysis
import ImagePipeline.Properties.DurationStrings
import ImagePipeline.Properties.LogAnalysis
import ImagePipeline.Properties.K6Messages
import ImagePipeline.Library.Csv
import ImagePipeline.Library.Entries
import ImagePipeline.Benchmark.CsvFiles
import ImagePipeline.Properties.MergedFiles
import ImagePipeline.Benchmark.DockerStats
import ImagePipeline.Benchmark.MonitorFiles
import ImagePipeline.Properties.ReadBack
import ImagePipeline.Properties.NodeFiles
import ImagePipeline.Properties.JobLogs
import ImagePipeline.Properties.ContainerLogs
import ImagePipeline.Properties.ConfigFile
import ImagePipeline.Properties.ThroughputPlot
import ImagePipeline.Benchmark.ClusterMain
import ImagePipeline.Properties.ClusterMain
