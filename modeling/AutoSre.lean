import AutoSre.Chaos.AuditTrail
import AutoSre.Chaos.CpuFlag
import AutoSre.Chaos.Drill
import AutoSre.Chaos.Gauges
import AutoSre.Chaos.LatencyHistogram
import AutoSre.Chaos.Memory
import AutoSre.Chaos.Reset
import AutoSre.GoServer.Config
import AutoSre.GoServer.CorrelationChain
import AutoSre.GoServer.PanicRecovery
import AutoSre.GoServer.RequestLog
import AutoSre.GoServer.Shutdown
import AutoSre.Observability.RedMetrics
import AutoSre.Observability.RequestContext
import AutoSre.Prober.Counters
import AutoSre.Prober.Daemon
import AutoSre.Resilience.BreakerHistory
import AutoSre.Resilience.BreakerRegistry
import AutoSre.Resilience.CallAccounting
import AutoSre.Resilience.ClientTable
import AutoSre.Resilience.CopyingStore
import AutoSre.Resilience.EventLog
import AutoSre.Resilience.FastFail
import AutoSre.Resilience.HalfOpenVerdicts
import AutoSre.Resilience.ProtectedCalls
import AutoSre.Resilience.RateLimiterIsolation
import AutoSre.Resilience.RetryAfter
import AutoSre.Services.HealthyAuth
import AutoSre.Services.Observation
import AutoSre.Services.OrderContracts
import AutoSre.Services.OrderRecovery
import AutoSre.Services.Readiness
import AutoSre.Services.SharedLimiter
import AutoSre.Services.SharedStore
import AutoSre.Services.StackAccounting
import AutoSre.Services.WorkerSpread
import AutoSre.Storage.Reading
import AutoSre.Storage.TornWrites
