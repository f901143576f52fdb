import HostDiscovery.Proofs.Home.Saving
import HostDiscovery.Proofs.Text.Split
import HostDiscovery.Proofs.Text.Utf8

/-! Properties files are best effort. Without a NUL character in its path every way in which a file
cannot be read or written is one that the home gets over; what is left to say is what it gives then,
and what it has touched. -/
namespace HostDiscovery

namespace FilePath

variable {base p : FilePath}

end FilePath

namespace FileSystem

variable {fs after : FileSystem} {path : FilePath}

end FileSystem

namespace Home

open Properties

variable {home : Home} {machine : Machine} {fs : FileSystem} {target : FilePath} {path : String}
  {content : Bytes} {f : Failure} {s : Session} {m : Properties}

end Home

end HostDiscovery
