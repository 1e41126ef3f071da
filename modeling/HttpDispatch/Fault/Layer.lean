import HttpDispatch.Text.Utf8
import HttpDispatch.Text.Numeral
import HttpDispatch.Message.Status
import HttpDispatch.Message.Mime

/-!
What can go wrong, one layer at a time. A fault is a chain of layers, each explained by the next;
`Layer` is the type of one link, `Layer.kind` the sort of error it is, and `Layer.message` its
text.
-/

namespace HttpDispatch

inductive IoKind where
  | notFound
  | permissionDenied
  | connectionReset
  | brokenPipe
  | invalidInput
  | invalidData
  | timedOut
  | writeZero
  | interrupted
  | unexpectedEof
  | other
  deriving DecidableEq

/-- Why urlencoded data is not the record that was asked for. -/
inductive FormDefect where
  | duplicateField (name : String)
  | missingField (name : String)
  | unknownVariant (value : String) (first second : String)
  | integer (defect : Text.IntegerDefect)
  | truth
  | custom (message : String)
  deriving DecidableEq

def FormDefect.message : FormDefect → String
  | .duplicateField name => "duplicate field `" ++ name ++ "`"
  | .missingField name => "missing field `" ++ name ++ "`"
  | .unknownVariant value first second =>
    "unknown variant `" ++ value ++ "`, expected `" ++ first ++ "` or `" ++ second ++ "`"
  | .integer defect => defect.message
  | .truth => Text.badBoolMessage
  | .custom message => message

/-- What is wrong with the body of a request. -/
inductive BodyDefect where
  | invalidUtf8 (defect : Utf8.Defect)
  | malformed (defect : FormDefect)
  | consumed
  | io (kind : IoKind) (text : String)
  deriving DecidableEq

namespace BodyDefect

def message : BodyDefect → String
  | invalidUtf8 defect => "body is not valid utf-8: " ++ defect.message
  | malformed defect => "malformed urlencoded data: " ++ defect.message
  | consumed => "body has been consumed"
  | io _ text => "io error: " ++ text

/-- A body with the wrong contents is the sender's fault, one that cannot be had is ours. -/
def status : BodyDefect → Status
  | invalidUtf8 _ | malformed _ => .badRequest
  | consumed | io _ _ => .internal

end BodyDefect

inductive RegistryDefect where
  | isSealed
  | notInjectable (type : String)
  deriving DecidableEq

def notInjectableMessage (type : String) : String := "nothing injectable provides " ++ type

def RegistryDefect.message : RegistryDefect → String
  | .isSealed => "registry is sealed, endpoints can no longer be registered"
  | .notInjectable type => "failed to construct endpoints: " ++ notInjectableMessage type

/-- One link of a chain of errors. -/
inductive Layer where
  /-- An error that names the status to answer with. -/
  | serve (status : Status) (message : String)
  | body (defect : BodyDefect)
  | io (kind : IoKind) (text : String)
  | integer (defect : Text.IntegerDefect)
  | decimal (defect : Text.DecimalDefect)
  | truth
  /-- Bytes looked at as text. -/
  | textView (defect : Utf8.Defect)
  /-- Bytes turned into text. -/
  | textConversion (defect : Utf8.Defect)
  | form (defect : FormDefect)
  | contextMiss (type endpoint : String)
  | outputType (endpoint : String) (declared actual : Mime)
  | handlerPanic (message : String)
  | notInjectable (type : String)
  | registry (defect : RegistryDefect)
  | unknownVerb (token : String)
  /-- An error of a type that the application brings along. -/
  | application (type message : String)
  deriving DecidableEq

namespace Layer

/-- The sorts of errors. Every application type is a sort of its own. -/
inductive Kind where
  | serve
  | body
  | io
  | integer
  | decimal
  | truth
  | textView
  | textConversion
  | form
  | contextMiss
  | outputType
  | handlerPanic
  | notInjectable
  | registry
  | unknownVerb
  | application (type : String)
  deriving DecidableEq

def kind : Layer → Kind
  | serve _ _ => .serve
  | body _ => .body
  | io _ _ => .io
  | integer _ => .integer
  | decimal _ => .decimal
  | truth => .truth
  | textView _ => .textView
  | textConversion _ => .textConversion
  | form _ => .form
  | contextMiss _ _ => .contextMiss
  | outputType _ _ _ => .outputType
  | handlerPanic _ => .handlerPanic
  | notInjectable _ => .notInjectable
  | registry _ => .registry
  | unknownVerb _ => .unknownVerb
  | application type _ => .application type

def message : Layer → String
  | serve status message => status.display ++ ": " ++ message
  | body defect => defect.message
  | io _ text => text
  | integer defect => defect.message
  | decimal defect => defect.message
  | truth => Text.badBoolMessage
  | textView defect | textConversion defect => defect.message
  | form defect => defect.message
  | contextMiss type endpoint =>
    "no value of type " ++ type ++ " in the dispatch context of " ++ endpoint
  | outputType endpoint declared actual =>
    endpoint ++ " produces " ++ declared.text ++ " but responded with " ++ actual.text
  | handlerPanic message => "handler panicked: " ++ message
  | notInjectable type => notInjectableMessage type
  | registry defect => defect.message
  | unknownVerb token => "unknown http verb: " ++ token
  | application _ message => message

end Layer

end HttpDispatch
