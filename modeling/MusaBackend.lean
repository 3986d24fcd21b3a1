import MusaBackend.Runtime
import MusaBackend.EventPool
import MusaBackend.Memcpy
import MusaBackend.KernelCache
import MusaBackend.CodeObjectLaunch
import MusaBackend.ContentAddressing
import MusaBackend.HostCallback
import MusaBackend.Queue
import MusaBackend.StreamDiscipline
import MusaBackend.Instrumentation
import MusaBackend.LaunchRuns
import MusaBackend.QueueAccounting
import MusaBackend.MarkerRecords
import MusaBackend.MarkerOrder
import MusaBackend.SscpLaunchRuns
import MusaBackend.QueueDependencies
import MusaBackend.Timestamps
