import Irrigation.Library.Codec
import Irrigation.Library.Crc
import Irrigation.Library.KeyedSlots
import Irrigation.Library.FilledSlots
import Irrigation.Library.TwoSlot
import Irrigation.Library.Runs
import Irrigation.Text
import Irrigation.Configuration
import Irrigation.Defaults
import Irrigation.Repository
import Irrigation.RepositoryRoundTrip
import Irrigation.RepositorySlots
import Irrigation.RepositoryDurability
import Irrigation.RepositoryCorruption
import Irrigation.StateStore
import Irrigation.Services
import Irrigation.ServiceSteps
import Irrigation.SchedulerConfiguration
import Irrigation.ProgramSteps
import Irrigation.Operations
import Irrigation.ServiceRelations
import Irrigation.DeviceInvariants
import Irrigation.StoreSafety
import Irrigation.HealthyRuns
import Irrigation.ProgramExits
import Irrigation.ProgramExecution
import Irrigation.WaitingPrograms
import Irrigation.ZoneTimeouts
import Irrigation.Library.Interleaving
import Irrigation.ExecutionCalls
import Irrigation.RefusedStarts
import Irrigation.ExecutionEvents
import Irrigation.Terminations
import Irrigation.ConfigurationManager
import Irrigation.ViewMirroring
import Irrigation.MutationSteps
import Irrigation.InstalledConfigurations
import Irrigation.MirroredSystems
import Irrigation.SlotTables
import Irrigation.HandledOccurrences
import Irrigation.StandingSchedules
import Irrigation.ConfigurationRollback
import Irrigation.SchedulerTicks
import Irrigation.DueOccurrences
import Irrigation.LiveMutations
import Irrigation.ReplacementVerdicts
import Irrigation.DeletedEntries
import Irrigation.EditedPrograms
import Irrigation.Library.Resumptions
import Irrigation.AtomicServices
import Irrigation.ValveExclusion
import Irrigation.ZoneLockout
import Irrigation.MasterValveRetries
import Irrigation.ValvePositions
import Irrigation.PreOpenDelays
import Irrigation.RelayDriver
import Irrigation.RelaySafety
import Irrigation.ExecutionHistory
import Irrigation.ExecutionStories
import Irrigation.HistoryRecords
import Irrigation.HistoryCapacity
import Irrigation.HistoryCounters
import Irrigation.Library.Numbering
import Irrigation.RestartedManagers
import Irrigation.FreshIds
import Irrigation.ShellyScanner
import Irrigation.ShellyAcceptance
import Irrigation.ShellyResponse
import Irrigation.ShellyDriver
import Irrigation.ConfiguredZones
import Irrigation.ChecksumBursts
import Irrigation.Library.Calendar
import Irrigation.Library.Numerals
import Irrigation.SchedulerClock
import Irrigation.ReconfiguredSchedulers
import Irrigation.WebRequests
import Irrigation.StatusLed
import Irrigation.ListMutations
import Irrigation.ListRefinement
import Irrigation.Library.Printing
import Irrigation.Library.JsonText
import Irrigation.WebResponses
import Irrigation.Library.CheckedMemory
import Irrigation.Library.Cursors
import Irrigation.ValidatorMemory
import Irrigation.DecodeMemory
import Irrigation.DecodeSafety
import Irrigation.Library.Polling
import Irrigation.Library.UrlEncoding
import Irrigation.WebHandlers
import Irrigation.Firmware
import Irrigation.SoundFirmware
import Irrigation.WebQueries
import Irrigation.WebPage
import Irrigation.ProgramCards
import Irrigation.ScheduleCards
import Irrigation.ZoneCards
import Irrigation.SystemBoot
import Irrigation.PowerCycles
import Irrigation.ProgramStarts
import Irrigation.ProgramClock
import Irrigation.ProgramEnds
import Irrigation.ShellyTransport
import Irrigation.PoweredDevices
import Irrigation.ProductionBoard
import Irrigation.DevKitBoard
