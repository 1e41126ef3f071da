import HttpDispatch.Fault.Basic
import HttpDispatch.Values.TypeMap

/-!
The values from which sets of endpoints are constructed.
-/

namespace HttpDispatch

/-- Values that constructors of endpoints may ask for. -/
structure Injector (κ : Type) [Catalog κ] where
  values : TypeMap κ

namespace Injector

variable {κ : Type} [DecidableEq κ] [Catalog κ]

def empty : Injector κ := ⟨.empty⟩

/-- Adds a value, or replaces the one of its type. -/
def provide (injector : Injector κ) (provider : Provider κ) : Injector κ :=
  ⟨injector.values.provide provider⟩

/-- The value of a type, or the name of the type that nothing provides. -/
def get (injector : Injector κ) (wanted : κ) : Except String (Carrier wanted) :=
  match injector.values.get? wanted with
  | some value => .ok value
  | none => .error (Catalog.name wanted)

end Injector

end HttpDispatch
