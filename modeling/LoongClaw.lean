import LoongClaw.Protocol.Router
import LoongClaw.Protocol.Transport
import LoongClaw.Kernel.Architecture
import LoongClaw.Kernel.AuditTrail
import LoongClaw.Kernel.TaskSupervisor
import LoongClaw.Memory.RecentWindow
import LoongClaw.Tools.Shell
import LoongClaw.Tools.FilePolicy
import LoongClaw.Tools.RequiredCapabilities
import LoongClaw.Tools.WebRedirect
import LoongClaw.Tools.WebNarrowing
import LoongClaw.Tools.Browser
import LoongClaw.Tools.ExternalSkills
import LoongClaw.Conversation.RuntimeNarrowing
import LoongClaw.Conversation.DenyList
import LoongClaw.Conversation.ToolBatch
import LoongClaw.Conversation.ConcurrentDelegation
import LoongClaw.Plugins.ArtifactAgreement
import LoongClaw.Channel.FeishuWebhook
import LoongClaw.Channel.TelegramMessage
import LoongClaw.Channel.RuntimeState
import LoongClaw.Spec.Provenance
import LoongClaw.Spec.DeniedCalls
import LoongClaw.Spec.CircuitBreaker
import LoongClaw.Spec.RateLimit
import LoongClaw.Provider.Failover
import LoongClaw.Acp.Exclusion
import LoongClaw.Acp.SessionLimit
import LoongClaw.Conversation.SafeLaneOutputs
import LoongClaw.Conversation.SessionAddress
import LoongClaw.Memory.Snapshot
