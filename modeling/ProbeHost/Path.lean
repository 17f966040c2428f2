/-! Paths of files, as they are written. -/

set_option autoImplicit false

namespace ProbeHost

abbrev Path := String

end ProbeHost
