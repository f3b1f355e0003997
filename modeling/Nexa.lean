import Nexa.Api.Concurrency
import Nexa.Application.RestoreScan
import Nexa.Coordinator.Pagination
import Nexa.Scheduler.Fairness
import Nexa.Scheduler.OrderIndependence
import Nexa.Simulator.Metrics
import Nexa.Storage.Exactness
import Nexa.Store.DecimalCodec
import Nexa.System.Custody
import Nexa.System.Freeze
import Nexa.System.Redelivery
import Nexa.System.RateLimit
import Nexa.System.Requests
import Nexa.System.Tickets
import Nexa.Worker.CrashSafety
import Nexa.Workloads.Training
