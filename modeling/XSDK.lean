import XSDK.Rtos.NewBase
import XSDK.Rtos.RegistryLaws
import XSDK.Rtos.RoundRobin
import XSDK.Rtos.TimerRestart
import XSDK.Rtos.Semaphore
import XSDK.Rtos.TimedWaits
import XSDK.Rtos.Events
import XSDK.Rtos.Preemption
import XSDK.Net.OneServer
import XSDK.Usbh.Sound
import XSDK.Usbh.Handover
import XSDK.Usbd.Registrations
import XSDK.Usbd.DataStage
import XSDK.Usbd.MosSet
import XSDK.Usbd.SenseData
import XSDK.Usbip.Tickets
import XSDK.Usbip.Codec
import XSDK.Shell.Editor
import XSDK.Shell.Cli
import XSDK.Bridge.UartFlow
import XSDK.Bridge.Answers
import XSDK.Logic.Capture
import XSDK.Fs.BootSector
import XSDK.Fs.CacheFaults
import XSDK.Fs.FatSize
import XSDK.Trace.Overwrite
import XSDK.Trace.Framing
import XSDK.Trace.Nesting
import XSDK.Usbmsc.Calls
import XSDK.Fs.FileTruncate
import XSDK.Boot.PartitionSizes
import XSDK.Trace.CobsCodec
import XSDK.Net.Bounds
import XSDK.Net.DnsAnswer
import XSDK.Fs.Scanners
import XSDK.Fault.Backtrace
import XSDK.Fault.Dump
import XSDK.Logic.Sump
import XSDK.Bridge.SlcanPoll
import XSDK.Uart.Lifecycle
