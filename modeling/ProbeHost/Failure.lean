/-! A failure with the failures that led to it. -/

set_option autoImplicit false

namespace ProbeHost

structure Failure where
  message : String
  /-- The messages of the causes, each followed by its own cause. -/
  causes : List String := []
  deriving DecidableEq, Repr

def Failure.during (task : String) (failure : Failure) : Failure :=
  ⟨task, failure.message :: failure.causes⟩

def Failure.chain (failure : Failure) : String :=
  ": ".intercalate (failure.message :: failure.causes)

end ProbeHost
