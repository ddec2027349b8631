import ReloadedBuffers.Internal.LocatorHeaderFinder
import ReloadedBuffers.Concurrency.SharedFile
import ReloadedBuffers.Structs.PageProtection
import ReloadedBuffers.Structs.PrivateAllocation
import ReloadedBuffers.Internal.LinuxKernel
import ReloadedBuffers.Concurrency.SharedChain
import ReloadedBuffers.Structs.InitializeStores
import ReloadedBuffers.Structs.BinaryFormat
import ReloadedBuffers.Buffers.Granted
import ReloadedBuffers.Concurrency.Space
import ReloadedBuffers.Foundation.Arena
import ReloadedBuffers.Buffers.Preservation
import ReloadedBuffers.Foundation.Transition
import ReloadedBuffers.Foundation.PointerChain
import ReloadedBuffers.Structs.LocatorGrowth
import ReloadedBuffers.Structs.Initialization
import ReloadedBuffers.Structs.SafeLocatorItem
import ReloadedBuffers.Internal.Allocate
import ReloadedBuffers.Internal.BufferAllocatorLinux
import ReloadedBuffers.Internal.BufferAllocatorOsx
import ReloadedBuffers.Internal.BufferAllocatorWindows
import ReloadedBuffers.Internal.Candidates
import ReloadedBuffers.Internal.CallLog
import ReloadedBuffers.Internal.Postcondition
import ReloadedBuffers.Internal.LinuxFreeSpace
import ReloadedBuffers.Internal.WindowsFreeSpace
import ReloadedBuffers.Internal.BruteForce
import ReloadedBuffers.Structs.Carving
import ReloadedBuffers.Buffers.Aligned
import ReloadedBuffers.Buffers.Packing
import ReloadedBuffers.Buffers.Executable
import ReloadedBuffers.Internal.FreeRegions
import ReloadedBuffers.Structs.ManagedAppend
import ReloadedBuffers.Concurrency.PrivateFinder
import ReloadedBuffers.Utilities.ReadToString
import ReloadedBuffers.Foundation.Numeral
import ReloadedBuffers.Utilities.LinuxMapParser
import ReloadedBuffers.Internal.Cleanup
import ReloadedBuffers.Internal.MacosFreeSpace
import ReloadedBuffers.Internal.Leaks
import ReloadedBuffers.Internal.Returning
import ReloadedBuffers.Buffers.Visits
import ReloadedBuffers.Buffers.Termination
import ReloadedBuffers.Buffers.Intact
import ReloadedBuffers.Structs.FirstFit
import ReloadedBuffers.Buffers.Overwriting
import ReloadedBuffers.Internal.ManagedCandidates
import ReloadedBuffers.Buffers.Proximity
import ReloadedBuffers.Concurrency.Appending
import ReloadedBuffers.Concurrency.Delivery
import ReloadedBuffers.Concurrency.WaitFree
import ReloadedBuffers.Internal.ManagedAllocator
import ReloadedBuffers.Internal.ManagedOutcome
import ReloadedBuffers.Structs.ManagedLocator
import ReloadedBuffers.Buffers.Managed
import ReloadedBuffers.Internal.MapsFile
import ReloadedBuffers.Internal.MapsKernel
import ReloadedBuffers.Buffers.SessionRule
import ReloadedBuffers.Buffers.Locks
import ReloadedBuffers.Buffers.Private
import ReloadedBuffers.C.ErrorTexts
import ReloadedBuffers.C.Interface
import ReloadedBuffers.Foundation.Ledger
