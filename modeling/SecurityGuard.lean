import SecurityGuard.Auth.Isolation
import SecurityGuard.Auth.Concurrency
import SecurityGuard.Auth.Convergence
import SecurityGuard.Auth.Parcels
import SecurityGuard.Auth.Forwarding
import SecurityGuard.Auth.Reports
import SecurityGuard.Auth.Audience
import SecurityGuard.Subscribe.Refcount
import SecurityGuard.Subscribe.Quota
import SecurityGuard.Subscribe.Death
import SecurityGuard.Subscribe.DeviceIdRecovery
import SecurityGuard.Subscribe.Rollback
import SecurityGuard.Subscribe.Aliases
import SecurityGuard.Service.Confinement
import SecurityGuard.Service.Completion
import SecurityGuard.Service.Accounting
import SecurityGuard.Service.Watched
import SecurityGuard.Service.TokenBucket
import SecurityGuard.Service.Chunks
import SecurityGuard.Service.RiskData
import SecurityGuard.Collector.Unload
import SecurityGuard.Collector.Notification
import SecurityGuard.Collector.QueryParcels
import SecurityGuard.Collector.OnStart
import SecurityGuard.Collector.RemoteRemoval
import SecurityGuard.Collector.Libraries
import SecurityGuard.Upload.Conservation
import SecurityGuard.Store.Retained
import SecurityGuard.Store.SqlText
import SecurityGuard.RiskClassify.Listeners
import SecurityGuard.RiskClassify.Results
import SecurityGuard.RiskClassify.PluginEvents
import SecurityGuard.Sdk.Subscriptions
import SecurityGuard.Sdk.Reconnect
import SecurityGuard.Sdk.ProviderRelease
import SecurityGuard.Sdk.EventResubscription
import SecurityGuard.Napi.ScriptDelivery
import SecurityGuard.Napi.ScriptReturns
import SecurityGuard.Napi.ScriptService
import SecurityGuard.Config.Subscriber
import SecurityGuard.Config.StoredNumbers
import SecurityGuard.Foundation.SqlGrammar
import SecurityGuard.Config.Lifecycle
import SecurityGuard.Upload.Settling
