import XinghaiApi.Model.Subscription.Usage
import XinghaiApi.Service.BillingExclusion
import XinghaiApi.Relay.Realtime
import XinghaiApi.Controller.TopUp
import XinghaiApi.Service.TaskRefund
import XinghaiApi.Controller.RelayTask
import XinghaiApi.Relay.RelayTask
import XinghaiApi.Controller.RelayBound
import XinghaiApi.Controller.RelayPrice
import XinghaiApi.Relay.Common.RelayInfo
import XinghaiApi.Model.AbilityMirror.Runs
import XinghaiApi.Model.TokenReset
import XinghaiApi.Service.ChannelUsage
import XinghaiApi.Model.SystemTaskLease
import XinghaiApi.Model.Wallet.Ledger
import XinghaiApi.Service.ClaudePrice
import XinghaiApi.Service.RelayConvert.ResponsesStreamRun
import XinghaiApi.Relay.Channel.Settlement
import XinghaiApi.Controller.Midjourney
import XinghaiApi.Controller.RelayGroups
import XinghaiApi.Service.ProtectedFetchClient
import XinghaiApi.Controller.User
import XinghaiApi.Middleware.GroupAccess
import XinghaiApi.Model.TwoFA
import XinghaiApi.Common.BodyStorage
import XinghaiApi.Common.Limiter
import XinghaiApi.Service.Str
import XinghaiApi.Relay.Common.OverrideDelete
import XinghaiApi.Service.RelayConvert.GeminiParts
import XinghaiApi.Service.RelayConvert.ResponsesInput
import XinghaiApi.Service.RelayConvert.RoundTrip
