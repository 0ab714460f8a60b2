import TrackingVfs.Refinement
import TrackingVfs.Lifecycle
import TrackingVfs.OpenFlag
import TrackingVfs.Forwarding
import TrackingVfs.Safety
import TrackingVfs.Retention
import TrackingVfs.Sync
import TrackingVfs.PageSize
import TrackingVfs.Lifetime
import TrackingVfs.Ownership
import TrackingVfs.Sessions
