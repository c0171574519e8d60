import ATV2Utils.Lib.Scan
import ATV2Utils.Addresses
import ATV2Utils.AddressSoundness
import ATV2Utils.Lib.Machine
import ATV2Utils.Reachability
import ATV2Utils.ChipID
import ATV2Utils.Foundation
import ATV2Utils.Lib.Scaling
import ATV2Utils.LogSize
import ATV2Utils.MemoryMainMenu
import ATV2Utils.HardwareMainMenu
import ATV2Utils.LogMainMenu
import ATV2Utils.NetworkMainMenu
import ATV2Utils.PowerMainMenu
import ATV2Utils.SoftwareMainMenu
import ATV2Utils.ListBounds
import ATV2Utils.MenuLayout
import ATV2Utils.SyslogWarning
import ATV2Utils.Appliance
import ATV2Utils.BTDevice
import ATV2Utils.DeviceIdentity
import ATV2Utils.Lib.Memory
import ATV2Utils.Lib.Simulation
import ATV2Utils.WWANConnect
import ATV2Utils.WWANSession
import ATV2Utils.ReachabilityWatcher
import ATV2Utils.Lib.Handler
import ATV2Utils.Tasks
import ATV2Utils.MenuSession
import ATV2Utils.HostAddress
import ATV2Utils.Lib.Accumulate
import ATV2Utils.CacheSize
import ATV2Utils.LogSizeFloat
import ATV2Utils.KernelInfo
import ATV2Utils.MemoryReport
import ATV2Utils.Uptime
