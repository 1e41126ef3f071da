import HttpDispatch.Text.Basic
import HttpDispatch.Text.Utf8
import HttpDispatch.Text.Quoted
import HttpDispatch.Text.Numeral
import HttpDispatch.Routing.Label
import HttpDispatch.Routing.Search
import HttpDispatch.Routing.Node
import HttpDispatch.Routing.Trie
import HttpDispatch.Routing.Slot
import HttpDispatch.Routing.Traversal
import HttpDispatch.Message.Verb
import HttpDispatch.Message.Status
import HttpDispatch.Message.Mime
import HttpDispatch.Message.Headers
import HttpDispatch.Fault.Layer
import HttpDispatch.Fault.Basic
import HttpDispatch.Fault.Classifier
import HttpDispatch.Log.Record
import HttpDispatch.Decimal.Scaled
import HttpDispatch.Decimal.Shortest
import HttpDispatch.Settings.Document
import HttpDispatch.Settings.Config
import HttpDispatch.Settings.Json
import HttpDispatch.Values.TypeMap
import HttpDispatch.Values.Injector
import HttpDispatch.Flow.Ring
import HttpDispatch.Flow.Supply
import HttpDispatch.Flow.Sink
import HttpDispatch.Flow.Producer
import HttpDispatch.Flow.Pipe
import HttpDispatch.Flow.Threads
import HttpDispatch.Form.Codec
import HttpDispatch.Form.TextMap
import HttpDispatch.Form.Record
import HttpDispatch.Body.Basic
import HttpDispatch.Body.Delivery
import HttpDispatch.Body.Reader
import HttpDispatch.Body.Channel
import HttpDispatch.Message.Target
import HttpDispatch.Message.Request
import HttpDispatch.Message.Response
import HttpDispatch.Serving.Endpoint
import HttpDispatch.Serving.Context
import HttpDispatch.Serving.Service
import HttpDispatch.Serving.Extractor
import HttpDispatch.Serving.Reply
import HttpDispatch.Serving.Registration
import HttpDispatch.Serving.Registry
import HttpDispatch.Serving.Dispatch
import HttpDispatch.Proofs.Fault.Classification
import HttpDispatch.Proofs.Routing.Bisection
import HttpDispatch.Proofs.Routing.Ordering
import HttpDispatch.Proofs.Routing.Tree
import HttpDispatch.Proofs.Routing.PatternMap
import HttpDispatch.Proofs.Routing.Slots
import HttpDispatch.Proofs.Routing.Spelling
import HttpDispatch.Proofs.Routing.Accessing
import HttpDispatch.Proofs.Routing.Listing
import HttpDispatch.Proofs.Routing.Rebuilding
import HttpDispatch.Proofs.Routing.Greedy
import HttpDispatch.Proofs.Routing.Enumeration
import HttpDispatch.Proofs.Routing.Capturing
import HttpDispatch.Proofs.Flow.RingHistory
import HttpDispatch.Proofs.Flow.PipeReading
import HttpDispatch.Proofs.Flow.Supplying
import HttpDispatch.Proofs.Body.Reading
import HttpDispatch.Proofs.Body.Consumption
import HttpDispatch.Proofs.Serving.Stages
import HttpDispatch.Proofs.Serving.Lifecycle
import HttpDispatch.Proofs.Serving.Announcing
import HttpDispatch.Proofs.Serving.RouteTables
import HttpDispatch.Proofs.Serving.Registering
import HttpDispatch.Proofs.Serving.Matching
import HttpDispatch.Proofs.Flow.Interleaving
import HttpDispatch.Proofs.Flow.Waiting
import HttpDispatch.Proofs.Flow.Completion
import HttpDispatch.Proofs.Flow.Closing
import HttpDispatch.Proofs.Values.Specificity
import HttpDispatch.Proofs.Values.Surviving
import HttpDispatch.Proofs.Serving.Describing
import HttpDispatch.Proofs.Flow.ReadingOut
import HttpDispatch.Proofs.Flow.Scheduling
import HttpDispatch.Proofs.Body.Streaming
import HttpDispatch.Proofs.Serving.Streaming
import HttpDispatch.Proofs.Serving.Accesses
import HttpDispatch.Proofs.Serving.Conducts
import HttpDispatch.Proofs.Serving.Delivering
import HttpDispatch.Proofs.Flow.Calling
import HttpDispatch.Proofs.Body.Transferring
import HttpDispatch.Proofs.Body.Collecting
import HttpDispatch.Proofs.Serving.DeclaredSizes
import HttpDispatch.Proofs.Serving.OutputTypes
import HttpDispatch.Proofs.Serving.Replying
import HttpDispatch.Proofs.Text.Encoding
import HttpDispatch.Proofs.Form.RoundTrip
import HttpDispatch.Proofs.Form.LastValues
import HttpDispatch.Proofs.Serving.SubmittedForms
import HttpDispatch.Proofs.Routing.Places
import HttpDispatch.Proofs.Body.Framing
import HttpDispatch.Proofs.Routing.Branching
import HttpDispatch.Proofs.Serving.Seeding
import HttpDispatch.Proofs.Message.ContentTypes
import HttpDispatch.Proofs.Message.MimeGrammar
import HttpDispatch.Proofs.Settings.JsonTexts
import HttpDispatch.Proofs.Settings.Restoring
