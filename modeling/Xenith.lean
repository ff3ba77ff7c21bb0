import Xenith.Arch.ShootdownSafety
import Xenith.Audio.CommandRings
import Xenith.Debug.Rsp
import Xenith.Fs.DescriptorRights
import Xenith.Fs.MountIntegrity
import Xenith.Fs.Pipe
import Xenith.Fs.XenithFs.Replay
import Xenith.Fs.XenithFs.Transactions
import Xenith.Ipc.ChannelWakeups
import Xenith.Ipc.SharedMemory
import Xenith.Mm.ForkIsolation
import Xenith.Mm.HeapConservation
import Xenith.Mm.HeapStats
import Xenith.Mm.Physical.BitmapAccounting
import Xenith.Mm.Physical.BuddyRepresentation
import Xenith.Mm.WriteXorExecute
import Xenith.Net.PassiveOpenLifecycle
import Xenith.Net.TcpInvariant
import Xenith.Sched.SingleExecution
import Xenith.Tty.RecordAccounting
import Xenith.Ui.InputDelivery
import Xenith.Ui.ReaderWakeups
import Xenith.User.MappingCalls
import Xenith.Windrv.DeviceStacks
import Xenith.Windrv.Requests
import Xenith.Winhost.FirstFit
import Xenith.Winhost.HandleAccounting
import Xenith.Winhost.WaitLaws
