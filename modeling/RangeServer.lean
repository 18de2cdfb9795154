import RangeServer.Log.Banner
import RangeServer.Log.Writer
import RangeServer.Main
import RangeServer.Net.Parser
import RangeServer.Server.Shutdown
import RangeServer.Server.Startup
import RangeServer.Service
import RangeServer.Settings.Load
import RangeServer.Proofs.RangeReading
import RangeServer.Proofs.Replies
import RangeServer.Proofs.TruthfulReplies
import RangeServer.Proofs.Reassembly
import RangeServer.Proofs.FaultFree
import RangeServer.Proofs.AccessRecords
import RangeServer.Proofs.Reactions
import RangeServer.Proofs.ServerSteps
import RangeServer.Proofs.LiveConnections
import RangeServer.Proofs.Admissions
import RangeServer.Proofs.OneConnection
import RangeServer.Proofs.Closing
import RangeServer.Proofs.Shutdowns
import RangeServer.Proofs.HeadReading
import RangeServer.Proofs.PlainRequests
import RangeServer.Proofs.ParallelSessions
import RangeServer.Proofs.Influence
import RangeServer.Proofs.LogKeeping
import RangeServer.Proofs.SettingLayers
import RangeServer.Proofs.AcceptedRequests
import RangeServer.Proofs.AccessLines
import RangeServer.Proofs.TextLines
import RangeServer.Proofs.CommonRecords
import RangeServer.Proofs.JsonReading
import RangeServer.Proofs.Rendering
import RangeServer.Proofs.PatternPasses
import RangeServer.Proofs.StartupStages
import RangeServer.Proofs.JsonLines
import RangeServer.Proofs.AddressReading
import RangeServer.Proofs.CanonicalRanges
import RangeServer.Proofs.HostAddresses
import RangeServer.Proofs.LoggedTargets
import RangeServer.Proofs.ShutdownRequests
import RangeServer.Proofs.HeldOffsets
import RangeServer.Proofs.Looks
import RangeServer.Proofs.BoundedWaits
import RangeServer.Proofs.Deadlines
import RangeServer.Proofs.Banners
import RangeServer.Proofs.SettingConversions
import RangeServer.Proofs.RoundedNumbers
