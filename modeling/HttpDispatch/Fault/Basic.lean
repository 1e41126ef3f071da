import HttpDispatch.Fault.Layer

/-!
Faults: an error with the chain of errors that explain it. The constructors state which layers
each error is made of; `Fault.chain` is the text in which a fault is logged.
-/

namespace HttpDispatch

/-- An error and its causes, the nearest first. -/
structure Fault where
  outer : Layer
  causes : List Layer
  deriving DecidableEq

namespace Fault

def ofLayer (layer : Layer) : Fault := ⟨layer, []⟩

def layers (fault : Fault) : List Layer := fault.outer :: fault.causes

def layersOf : Option Fault → List Layer
  | some fault => fault.layers
  | none => []

/-- Explains a layer by an optional cause. -/
def because (layer : Layer) (cause : Option Fault) : Fault := ⟨layer, layersOf cause⟩

def message (fault : Fault) : String := fault.outer.message

def chain (fault : Fault) : String :=
  String.intercalate ": " (fault.layers.map Layer.message)

/-- An error that names the status to answer with, which has to be one of an error. -/
def serve (status : Status) (message : String) (cause : Option Fault) : Fault :=
  because (.serve status.clampToError message) cause

/-- The fault of a request that lacks a cookie. -/
def missingCookie (name : String) (cause : Option Fault) : Fault :=
  serve .badRequest ("missing cookie \"" ++ name ++ "\"") cause

/-- The fault of a registry that takes no endpoints, explained by what is missing. -/
def ofRegistry (defect : RegistryDefect) : Fault :=
  because (.registry defect) <| match defect with
    | .isSealed => none
    | .notInjectable type => some (.ofLayer (.notInjectable type))

end Fault

/-- An error of reading or writing. One that wraps another error shows the text of that error and
is explained by what explains it. -/
structure IoFault where
  kind : IoKind
  text : String
  causes : List Layer
  deriving DecidableEq

namespace IoFault

def ofMessage (kind : IoKind) (text : String) : IoFault := ⟨kind, text, []⟩

def wrapping (kind : IoKind) (fault : Fault) : IoFault := ⟨kind, fault.message, fault.causes⟩

def toFault (fault : IoFault) : Fault := ⟨.io fault.kind fault.text, fault.causes⟩

/-- A sink that stopped accepting bytes. -/
def writeZero : IoFault := ofMessage .writeZero "failed to write whole buffer"

def streamClosed : IoFault := ofMessage .brokenPipe "stream closed"

/-- A producer that panicked while a body was read. -/
def producerPanicked : IoFault := ofMessage .other "body producer panicked"

end IoFault

/-- Why a request did not give its body. -/
inductive BodyFault where
  | invalidUtf8 (defect : Utf8.Defect)
  | malformed (defect : FormDefect)
  | consumed
  | io (fault : IoFault)
  deriving DecidableEq

namespace BodyFault

def defect : BodyFault → BodyDefect
  | invalidUtf8 defect => .invalidUtf8 defect
  | malformed defect => .malformed defect
  | consumed => .consumed
  | io fault => .io fault.kind fault.text

/-- The error found while the body was read or decoded. -/
def cause? : BodyFault → Option Fault
  | invalidUtf8 defect => some (.ofLayer (.textConversion defect))
  | malformed defect => some (.ofLayer (.form defect))
  | consumed => none
  | io fault => some fault.toFault

/-- The fault, explained by the error found in the body. -/
def toFault (fault : BodyFault) : Fault := .because (.body fault.defect) fault.cause?

/-- The same fault as an error that names its status. -/
def toServe (fault : BodyFault) : Fault :=
  .serve fault.defect.status "invalid request body" (some fault.toFault)

end BodyFault

/-- What a panic leaves behind: a text, or something that is none. -/
inductive PanicPayload where
  | text (message : String)
  | foreign
  deriving DecidableEq

def PanicPayload.message : PanicPayload → String
  | .text message => message
  | .foreign => "<non-string panic payload>"

namespace Fault

def ofPanic (payload : PanicPayload) : Fault := .ofLayer (.handlerPanic payload.message)

end Fault

/-- Why a computation ended without a value. -/
inductive Stop (ε : Type u) where
  | failed (fault : ε)
  | panicked (payload : PanicPayload)

namespace Stop

def map (change : ε → δ) : Stop ε → Stop δ
  | failed fault => failed (change fault)
  | panicked payload => panicked payload

/-- A stop as a fault, a panic being one like any other. -/
def toFault : Stop Fault → Fault
  | failed fault => fault
  | panicked payload => .ofPanic payload

/-- The fault that stopped it, unless it was a panic. -/
def fault? : Stop ε → Option ε
  | failed fault => some fault
  | panicked _ => none

/-- Whether what was stopped is only to be tried again. -/
def isInterruption : Stop IoFault → Bool
  | failed fault => fault.kind == .interrupted
  | panicked _ => false

end Stop

end HttpDispatch
