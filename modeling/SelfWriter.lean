import SelfWriter.Command
import SelfWriter.Lib.Binary32
import SelfWriter.Lib.Limits
import SelfWriter.Lib.Hoare
import SelfWriter.Lib.Lens
import SelfWriter.Lib.LittleEndian
import SelfWriter.Lib.Machine
import SelfWriter.Lib.NextFree
import SelfWriter.Lib.NextMultiple
import SelfWriter.Lib.NorMemory
import SelfWriter.Lib.Utf8
import SelfWriter.Lib.Varint
import SelfWriter.Lib.Word32
import SelfWriter.Lib.LeastDivisor
import SelfWriter.Protobuf.Messages
import SelfWriter.Protobuf.ProcessSettings
import SelfWriter.Protobuf.UpdateSettings
import SelfWriter.Protobuf.ProcessRequest
import SelfWriter.Protobuf.ReadBack
import SelfWriter.Protobuf.SaveRequested
import SelfWriter.Protobuf.SettingsLock
import SelfWriter.Protobuf.Serial
import SelfWriter.Protobuf.Reception
import SelfWriter.Protobuf.AllOrNothing
import SelfWriter.Protobuf.Output
import SelfWriter.Protobuf.PasswordProtection
import SelfWriter.Protobuf.Server
import SelfWriter.Protobuf.WorkRanges
import SelfWriter.Protobuf.CalibrationDates
import SelfWriter.Qspi.Driver
import SelfWriter.Qspi.Storage
import SelfWriter.Qspi.Quiet
import SelfWriter.Qspi.Synced
import SelfWriter.Qspi.Addressing
import SelfWriter.Qspi.Discipline
import SelfWriter.Qspi.DirectRead
import SelfWriter.Qspi.Counted
import SelfWriter.Qspi.Paired
import SelfWriter.Qspi.WakeUpLeak
import SelfWriter.Qspi.WriteReport
import SelfWriter.Qspi.WriteRounds
import SelfWriter.Recorder.Acquisition
import SelfWriter.Recorder.Schedule
import SelfWriter.Recorder.Configuration
import SelfWriter.Recorder.Power
import SelfWriter.Processing.Adaptation
import SelfWriter.Processing.Alarms
import SelfWriter.Processing.Monitoring
import SelfWriter.Processing.Processors
import SelfWriter.Recorder.PageTime
import SelfWriter.Recorder.PageLoop
import SelfWriter.Sensors.FreqmeterController
import SelfWriter.Sensors.SensorProcessor
import SelfWriter.Sensors.Halted
import SelfWriter.Sensors.Integrity
import SelfWriter.Sensors.MasterCounter
import SelfWriter.Sensors.Steps
import SelfWriter.Sensors.Uptime
import SelfWriter.Sensors.WakeUp
import SelfWriter.Sensors.WriteBack
import SelfWriter.Sensors.Measurement
import SelfWriter.Sensors.Target
import SelfWriter.Settings.AppSettings
import SelfWriter.Settings.Fields
import SelfWriter.Settings.FlashPolicy
import SelfWriter.Settings.StoreAsync
import SelfWriter.Storage.DiffWriter
import SelfWriter.Storage.PageAllocation
import SelfWriter.Storage.PushData
import SelfWriter.Storage.UsedPages
import SelfWriter.Storage.Erase
import SelfWriter.Storage.EraseFlag
import SelfWriter.Lib.IndexList
import SelfWriter.Lib.ConsecutiveRanges
import SelfWriter.Lib.Fat32
import SelfWriter.Vfs.Entries
import SelfWriter.Vfs.Layout
import SelfWriter.Vfs.Sectors
import SelfWriter.Vfs.Lookup
import SelfWriter.Vfs.Host
import SelfWriter.Vfs.Chains
import SelfWriter.Vfs.Directory
import SelfWriter.Vfs.Callbacks
import SelfWriter.Vfs.FilesTable
import SelfWriter.Vfs.LoggerDisk
import SelfWriter.Vfs.FileContents
import SelfWriter.Storage.RecordedLog
import SelfWriter.Storage.Measurements
import SelfWriter.Vfs.ReadBack
import SelfWriter.Lib.Ranking
import SelfWriter.Lib.Simulation
import SelfWriter.Usb.Tasks
import SelfWriter.Usb.Progress
import SelfWriter.Protobuf.SerialDevice
import SelfWriter.Protobuf.Conversation
