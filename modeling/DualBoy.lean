import DualBoy.Frontend.Compositor
import DualBoy.Frontend.Canonical
import DualBoy.Frontend.Content
import DualBoy.Frontend.Cursor
import DualBoy.Frontend.Lifecycle
import DualBoy.Frontend.LocalPaths
import DualBoy.Frontend.TouchCursor
import DualBoy.Lockstep.Agreement
import DualBoy.Lockstep.Drained
import DualBoy.Lockstep.Enqueue
import DualBoy.Lockstep.SavedLink
import DualBoy.Lockstep.Shift
import DualBoy.Nds.EglService
import DualBoy.Nds.Frames
import DualBoy.Nds.HostReceive
import DualBoy.Nds.Registration
import DualBoy.Nds.Semaphore
import DualBoy.Nds.Shadow
import DualBoy.Sameboy.Audio
import DualBoy.Sameboy.Link
import DualBoy.Saves.AtomicWrite
import DualBoy.Saves.Contest
import DualBoy.Saves.Durability
import DualBoy.Saves.FilledRead
import DualBoy.Saves.Names
import DualBoy.Saves.Resume
import DualBoy.State.Checksum
import DualBoy.State.RoundTrip
import DualBoy.Libretro.Agreement
import DualBoy.Libretro.Pictures
import DualBoy.Libretro.Stability
import DualBoy.MgbaStorage.MachineState
import DualBoy.Libretro.Loading
