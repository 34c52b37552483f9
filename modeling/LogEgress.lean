import LogEgress.Adapter.Timeline
import LogEgress.Config
import LogEgress.Egress.Connector
import LogEgress.Egress.Delivery
import LogEgress.Egress.Requests
import LogEgress.Health
import LogEgress.Ingress.Provider
import LogEgress.Proofs.Adapter.Alone
import LogEgress.Proofs.Adapter.Subscriptions
import LogEgress.Proofs.Blacklist
import LogEgress.Proofs.Config
import LogEgress.Proofs.Drain
import LogEgress.Proofs.Egress.Backoff
import LogEgress.Proofs.Egress.Flush
import LogEgress.Proofs.Egress.Parting
import LogEgress.Proofs.Egress.Pipeline
import LogEgress.Proofs.Egress.Program
import LogEgress.Proofs.Egress.Stream
import LogEgress.Proofs.Ingress.Batches
import LogEgress.Proofs.Ingress.StreamUrl
import LogEgress.Proofs.Ingress.Turns
import LogEgress.Proofs.Ingress.Upkeep
import LogEgress.Proofs.Metrics
import LogEgress.Proofs.Placement.Isolation
import LogEgress.Proofs.Placement.Run
import LogEgress.Proofs.Rpc.Transparency
import LogEgress.Proofs.Scheduler.Capacity
import LogEgress.Proofs.Scheduler.Cycle
import LogEgress.Proofs.Scheduler.Fates
import LogEgress.Proofs.Scheduler.Filter
import LogEgress.Proofs.Scheduler.Paging
import LogEgress.Proofs.Shutdown.Wait
import LogEgress.Proofs.Syslog.Message
import LogEgress.Proofs.Syslog.Timestamp
import LogEgress.Scheduler.Filter
import LogEgress.Scheduler.Paging
import LogEgress.Scheduler.Remote
import LogEgress.Scheduler.Scripted
import LogEgress.Scheduler.Term
import LogEgress.Text.Normal
import LogEgress.Tls.Identity
import LogEgress.Url.Domain.Mapping.Table
import LogEgress.Url.Domain.Mark
