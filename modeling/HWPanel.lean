import HWPanel.Service.StopFinality
import HWPanel.Service.ServingReports
import HWPanel.Core.Bus
import HWPanel.Core.BusHistory
import HWPanel.Core.BusInvariants
import HWPanel.Core.BusDelivery
import HWPanel.Library.Decimation
import HWPanel.Service.StreamDelivery
import HWPanel.Library.KeyedMap
import HWPanel.Library.SortedMap
import HWPanel.Platform.FileSystem
import HWPanel.Platform.Json
import HWPanel.Core.ProfileStore
import HWPanel.Core.ProfileFiles
import HWPanel.Core.ProfileMap
import HWPanel.Core.StoreRefinement
import HWPanel.Config.ProfileManager
import HWPanel.Config.SwitchOutcome
import HWPanel.Config.Transaction
import HWPanel.Config.RollbackReport
import HWPanel.Config.ActivePersistence
import HWPanel.Config.Confinement
import HWPanel.Library.Circular
import HWPanel.Core.TelemetryHistory
import HWPanel.Service.HostStates
import HWPanel.Service.FailedStart
import HWPanel.Client.ClientWorker
import HWPanel.Client.Shutdown
import HWPanel.Collectors.Metrics
import HWPanel.Collectors.MetricIds
import HWPanel.Client.TelemetryStore
import HWPanel.Client.ChartWindow
import HWPanel.Core.BadFiles
import HWPanel.Core.Indexes
import HWPanel.Config.ListedSwitch
import HWPanel.Core.AtomicSave
import HWPanel.Core.StoreEffects
import HWPanel.Core.MarkerFrame
import HWPanel.Core.ActiveReference
import HWPanel.Config.ActiveIntegrity
import HWPanel.Core.HistorySeconds
import HWPanel.Library.Numerals
import HWPanel.Library.Scanf
import HWPanel.Executors.Brightness
import HWPanel.Executors.BrightnessLaws
import HWPanel.Executors.PowerPlan
import HWPanel.Executors.PowerPlanLaws
import HWPanel.Config.FileWatch
import HWPanel.Core.ChannelManager
import HWPanel.Collectors.PerfNames
import HWPanel.Collectors.CounterPaths
import HWPanel.Client.LineChart
import HWPanel.Collectors.WmiFailures
import HWPanel.Core.RingSnapshot
import HWPanel.Core.BusSubscribers
import HWPanel.Client.ServerStream
import HWPanel.Client.Reconnection
import HWPanel.Library.RowChanges
import HWPanel.Client.NotificationModel
import HWPanel.Client.Notifications
import HWPanel.Client.TelemetryCharts
import HWPanel.Client.ConnectionStatus
import HWPanel.Service.ProfileRequests
import HWPanel.Client.ProfileCommands
import HWPanel.Collectors.TickPacing
import HWPanel.Executors.Factory
import HWPanel.Collectors.CounterHandles
import HWPanel.Config.WatchShutdown
import HWPanel.Config.Announcements
import HWPanel.Library.LockOrder
import HWPanel.Service.Locking
import HWPanel.Executors.FirstStart
import HWPanel.Service.HistoryStream
import HWPanel.Collectors.TickThreads
import HWPanel.Library.Handles
import HWPanel.Service.HandleUse
import HWPanel.Config.WatchHandles
