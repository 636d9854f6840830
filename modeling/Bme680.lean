import Bme680.Concurrency.TransitionSystem
import Bme680.Concurrency.ThreadTally
import Bme680.Concurrency.Attendance
import Bme680.Concurrency.WaitForOrder
import Bme680.Concurrency.GuardedQueue
import Bme680.Concurrency.RingBuffer
import Bme680.Concurrency.AccessLog
import Bme680.Concurrency.ResourceLedger
import Bme680.Concurrency.ThreadLocks
import Bme680.Concurrency.DestroyableMutex
import Bme680.Concurrency.PreferringLock
import Bme680.Concurrency.Serialization
import Bme680.Arithmetic.SignedWords
import Bme680.Arithmetic.ExactWords
import Bme680.Arithmetic.BitFields
import Bme680.Arithmetic.MaskedBytes
import Bme680.Arithmetic.Timespecs
import Bme680.ReadWriteLock.LockClients
import Bme680.ReadWriteLock.WakeUps
import Bme680.ReadWriteLock.WriterPreference
import Bme680.ReadWriteLock.ConfigAccess
import Bme680.Barriers.Generations
import Bme680.Barriers.Release
import Bme680.Semaphore.FifoSemaphore
import Bme680.Semaphore.CountConservation
import Bme680.Semaphore.WakeUps
import Bme680.Mutex.RecursiveMutex
import Bme680.Events.EventPair
import Bme680.Messaging.Publish
import Bme680.Messaging.Subscriptions
import Bme680.Logging.Logger
import Bme680.Logging.LogFile
import Bme680.Philosophers.DiningPhilosophers
import Bme680.Philosophers.AssemblyLine
import Bme680.Philosophers.PipelineResult
import Bme680.Philosophers.LineShutdown
import Bme680.Philosophers.LineJoins
import Bme680.Pool.ThreadPool
import Bme680.Pool.QueueDiscipline
import Bme680.Pool.TaskProgress
import Bme680.Pool.Shutdown
import Bme680.Threads.FailedCreation
import Bme680.Forks.ForkHandler
import Bme680.Deadlock.GuardedMutexes
import Bme680.Deadlock.HolderRecords
import Bme680.Monitor.FifoRefinement
import Bme680.Monitor.WakeUps
import Bme680.Monitor.DetectorUse
import Bme680.Ipc.SharedSample
import Bme680.Ipc.AlertResources
import Bme680.Ipc.AlertShutdown
import Bme680.Clocks.TimedWaits
import Bme680.Clocks.TimerTask
import Bme680.Driver.RawFrame
import Bme680.Driver.SpiPages
import Bme680.Driver.SpiCommands
import Bme680.Driver.RegisterView
import Bme680.Driver.Calibration
import Bme680.Driver.Compensation
import Bme680.Driver.ReadRaw
import Bme680.Driver.EndOfConversion
import Bme680.Driver.SampleFlow
import Bme680.Driver.ThresholdAlerts
import Bme680.Driver.Removal
import Bme680.Driver.Settings
import Bme680.Driver.OversamplingFields
import Bme680.Driver.SettingWrites
import Bme680.Driver.RegisterCoherence
import Bme680.Driver.ExactFormulas
import Bme680.Driver.StepRanges
import Bme680.Driver.ExactCompensation
import Bme680.Driver.GasResistance
import Bme680.Driver.Divisors
import Bme680.Driver.SerializedCalls
import Bme680.Driver.BusLock
import Bme680.App.SampleEvents
import Bme680.App.TaskArguments
import Bme680.App.SensorReader
import Bme680.Tasks.HandleReuse
import Bme680.Tasks.ConsumedRecords
import Bme680.Tasks.BoundedReadings
