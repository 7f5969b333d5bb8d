import ENavigator.Propagation.Injection
import ENavigator.Http2.RoundTrip
import ENavigator.Http2.DynamicTable
import ENavigator.Durable.Consistency
import ENavigator.Redis.Timing
import ENavigator.Mysql.Resultset
import ENavigator.Mysql.Prepare
import ENavigator.Samples.Merge
import ENavigator.Http1.Bodies
import ENavigator.Http1.Splicing
import ENavigator.Registry.HandOver
import ENavigator.Http1.Matching
import ENavigator.Registry.Accounting
import ENavigator.Postgres.Exchange
import ENavigator.Registry.Rejection
import ENavigator.Profiling.LoadBias
import ENavigator.Profiling.Unwind
import ENavigator.Attribution.PidCache
import ENavigator.Attribution.Refresh
import ENavigator.Capture.Filter
import ENavigator.Capture.Glob
import ENavigator.Metrics.TimestampGuard
import ENavigator.Metrics.Cumulative
import ENavigator.Metrics.DnsSeries
import ENavigator.Metrics.Conservation
import ENavigator.Metrics.ActiveGauges
import ENavigator.Logs.Redaction
import ENavigator.Host.CpuTime
import ENavigator.Kafka.NullFields
import ENavigator.Kafka.Flexible
import ENavigator.Capture.ByteCounts
import ENavigator.Propagation.OnTheWire
