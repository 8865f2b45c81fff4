import Nxvm.Nes.BatterySave
import Nxvm.Nes.ApuSamples
import Nxvm.Nes.RunCycles
import Nxvm.Nec.Division
import Nxvm.Nec.Run
import Nxvm.Nec.Shifts
import Nxvm.Chips.HdcEcc
import Nxvm.Chips.RtcDaylight
import Nxvm.Chips.HdcTransfer
import Nxvm.Chips.FdcSplit
import Nxvm.Chips.PitLatches
import Nxvm.Chips.PitOutput
import Nxvm.Chips.PitReload
import Nxvm.Chips.DmaProgram
import Nxvm.Chips.DmaTransfer
import Nxvm.Chips.PicNested
import Nxvm.Chips.KbcEvents
import Nxvm.Chips.KbcInterrupts
import Nxvm.Chips.KbcTranslation
import Nxvm.Chips.KeyboardStream
import Nxvm.Chips.XebecRequest
import Nxvm.BoardBase.DmaGrantRun
import Nxvm.BoardBase.PicBusCounts
import Nxvm.Bus.Refresh
import Nxvm.Cpu.DescriptorRead
import Nxvm.Cpu.TlbRun
import Nxvm.Machine.ClockDeadline
import Nxvm.Machine.Deadlines
import Nxvm.Machine.PortRegistry
import Nxvm.Machine.RunBudget
import Nxvm.Machine.TimelineRun
import Nxvm.Ram.DecodeSpan
import Nxvm.Ram.Inspect
import Nxvm.Ram.RomMapping
import Nxvm.Raiden.SortedTables
import Nxvm.Audio.StreamClear
import Nxvm.Audio.StreamControl
import Nxvm.Base.Text
import Nxvm.Emulator.InputQueue
import Nxvm.Kvm.FrameExchange
import Nxvm.Kvm.HotkeyOrder
import Nxvm.Kvm.Mailbox
import Nxvm.Storage.Overlay
