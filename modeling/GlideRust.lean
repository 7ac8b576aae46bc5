import GlideRust.Lib.Decimal
import GlideRust.Lib.Machine
import GlideRust.Lib.AsyncPrimitives
import GlideRust.Lib.Dialogue
import GlideRust.Lib.Tasks
import GlideRust.Lib.Duration
import GlideRust.Lib.PagedWalk
import GlideRust.Lib.PairList
import GlideRust.Lib.LastWrite
import GlideRust.Lib.CountedSection
import GlideRust.Lib.Fallible
import GlideRust.Lib.Decoding
import GlideRust.Lib.TokenGrammar
import GlideRust.Lib.OrderedWalk
import GlideRust.Lib.DebugFormat
import GlideRust.Redis
import GlideRust.Error
import GlideRust.ValueConversion
import GlideRust.Client.Push
import GlideRust.Client.Delivery
import GlideRust.Client.TryReceive
import GlideRust.Client.ServiceOrder
import GlideRust.Client.ClusterScan
import GlideRust.Client.ScanIsolation
import GlideRust.Commands.Scan
import GlideRust.Commands.ScanHistory
import GlideRust.Commands.ScanCompleteness
import GlideRust.Commands.Core
import GlideRust.LuaScript
import GlideRust.ScriptCache
import GlideRust.PipelineExecution
import GlideRust.Commands.StreamReply
import GlideRust.Commands.StreamReplyAudit
import GlideRust.Commands.PairReply
import GlideRust.Commands.Options
import GlideRust.Commands.CursorScan
import GlideRust.Commands.Counted
import GlideRust.Commands.Bitfield
import GlideRust.Commands.LexRange
import GlideRust.Commands.ScoreRange
import GlideRust.Commands.Stream
import GlideRust.Commands.StreamGrammar
import GlideRust.Commands.OptionVariants
import GlideRust.Config.Common
import GlideRust.Config.Clients
import GlideRust.Config.Lowering
import GlideRust.Config.Urls
import GlideRust.Config.DebugOutput
import GlideRust.Client.Connect
import GlideRust.Timeouts
import GlideRust.Commands.PairReplyAudit
import GlideRust.Client.Subscriptions
import GlideRust.Commands.ClauseGrammar
import GlideRust.Config.Faithful
import GlideRust.Commands.CountedGrammar
import GlideRust.Commands.StreamAdmin
import GlideRust.Commands.CommandLanguage
