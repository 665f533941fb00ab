import RunPlan.Service.Basic

/-!
Unique names for benchmarks: one call for all of them, and as many names in the same order.
-/

set_option autoImplicit false

namespace RunPlan

def Benchmark.nameRequest (b : Benchmark) : NameRequest := ⟨b.name, b.freeVariables⟩

/-- Gives every benchmark its unique name. Without benchmarks there is no call. -/
def Service.assignUniqueNames (service : Service) (bs : List Benchmark) :
    Await (List Benchmark) := do
  if bs.isEmpty then return bs
  let requests := bs.map Benchmark.nameRequest
  let names ← Await.callFor namesPath bs.length (.names requests) (service.uniqueNames requests)
  return bs.zipWith Benchmark.withUniqueName names

end RunPlan
