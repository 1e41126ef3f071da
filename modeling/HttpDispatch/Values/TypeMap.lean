import HttpDispatch.Routing.Search

/-!
A map with one value for each of a family of types. A provider may offer views of its value as
other types; a look-up prefers the value stored under exactly the type asked for and otherwise
takes the first view of it, the providers with most views being asked first.
-/

namespace HttpDispatch

/-- A family of types, each known by a code and shown by a name. -/
class Catalog (κ : Type) where
  Carrier : κ → Type
  name : κ → String

export Catalog (Carrier)

/-- A way to see a value of one type as a value of another. -/
structure View (κ : Type) [Catalog κ] (source : κ) where
  target : κ
  apply : Carrier source → Carrier target

/-- A value with its views, in the order in which they were declared. -/
structure Provider (κ : Type) [Catalog κ] where
  key : κ
  value : Carrier key
  views : List (View κ key)

namespace Provider

variable {κ : Type} [DecidableEq κ] [Catalog κ]

def ofValue (key : κ) (value : Carrier key) : Provider κ := ⟨key, value, []⟩

/-- The value, if it is of exactly this type. -/
def stored? (provider : Provider κ) (wanted : κ) : Option (Carrier wanted) :=
  if same : provider.key = wanted then some (same ▸ provider.value) else none

/-- The first view of the value as this type. -/
def view? (provider : Provider κ) (wanted : κ) : Option (Carrier wanted) :=
  provider.views.findSome? fun view =>
    if same : view.target = wanted then some (same ▸ view.apply provider.value) else none

/-- Whether the value is of this type or has a view of it. -/
def offers (provider : Provider κ) (wanted : κ) : Bool :=
  provider.key == wanted || provider.views.any (·.target == wanted)

/-- Changes the value, if it is of exactly this type. -/
def modify (provider : Provider κ) (wanted : κ) (change : Carrier wanted → Carrier wanted) :
    Provider κ :=
  if same : provider.key = wanted then
    { provider with value := same ▸ change (same ▸ provider.value) }
  else provider

/-- The order in which providers are asked: more views first, then by descending type name. -/
def order (left right : Provider κ) : Ordering :=
  (compare right.views.length left.views.length).then
    (compare (Catalog.name right.key) (Catalog.name left.key))

end Provider

/-- Providers of distinct types, in the order in which they are asked. -/
structure TypeMap (κ : Type) [Catalog κ] where
  providers : List (Provider κ)

namespace TypeMap

variable {κ : Type} [DecidableEq κ] [Catalog κ]

def empty : TypeMap κ := ⟨[]⟩

def size (map : TypeMap κ) : Nat := map.providers.length

def isEmpty (map : TypeMap κ) : Bool := map.providers.isEmpty

/-- The value stored under exactly this type. -/
def stored? (map : TypeMap κ) (wanted : κ) : Option (Carrier wanted) :=
  map.providers.findSome? (·.stored? wanted)

/-- The first view of a stored value as this type. -/
def view? (map : TypeMap κ) (wanted : κ) : Option (Carrier wanted) :=
  map.providers.findSome? (·.view? wanted)

/-- The value stored under this type, or else a view of it. -/
def get? (map : TypeMap κ) (wanted : κ) : Option (Carrier wanted) :=
  (map.stored? wanted).or (map.view? wanted)

/-- Whether a value is stored under this type or has a view of it. -/
def contains (map : TypeMap κ) (wanted : κ) : Bool := map.providers.any (·.offers wanted)

/-- Takes the value stored under exactly this type away, with its views. -/
def remove (map : TypeMap κ) (key : κ) : TypeMap κ :=
  ⟨map.providers.eraseP (·.key == key)⟩

/-- Takes a value away like `remove`, and gives it. -/
def take (map : TypeMap κ) (key : κ) : Option (Carrier key) × TypeMap κ :=
  (map.stored? key, map.remove key)

/-- Puts a provider behind those that are asked before it. -/
def place (map : TypeMap κ) (provider : Provider κ) : TypeMap κ :=
  let index := Routing.partitionPoint (fun other => (other.order provider).isLT) map.providers
  ⟨map.providers.take index ++ provider :: map.providers.drop index⟩

/-- Puts a provider in its place, and gives the value of the one for the same type that it
replaces. -/
def exchange (map : TypeMap κ) (provider : Provider κ) :
    Option (Carrier provider.key) × TypeMap κ :=
  let (previous, others) := map.take provider.key
  (previous, others.place provider)

/-- Puts a provider in its place, in place of the one for the same type. -/
def provide (map : TypeMap κ) (provider : Provider κ) : TypeMap κ := (map.exchange provider).2

def insert (map : TypeMap κ) (key : κ) (value : Carrier key) : TypeMap κ :=
  map.provide (.ofValue key value)

/-- Changes the value stored under exactly this type, keeping its place and its views. -/
def modify (map : TypeMap κ) (key : κ) (change : Carrier key → Carrier key) : TypeMap κ :=
  ⟨map.providers.map (·.modify key change)⟩

/-- The names of the stored types, in the order in which they are asked. -/
def typeNames (map : TypeMap κ) : List String :=
  map.providers.map fun provider => Catalog.name provider.key

end TypeMap

end HttpDispatch
