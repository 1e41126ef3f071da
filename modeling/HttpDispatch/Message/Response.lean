import HttpDispatch.Body.Channel
import HttpDispatch.Message.Headers

/-!
Responses, and the headers that have to agree with a response's status and body.
-/

namespace HttpDispatch

structure Response where
  status : Status
  headers : Headers
  body : Body

namespace Response

/-- Makes the headers agree with the status and the body: an informational response and one
without content announce no length, and any other announces the media type of its body and the
length that the body declares. -/
def normalize (response : Response) : Response :=
  if response.status.isInformational ∨ response.status = .noContent then
    { response with headers := response.headers.remove .contentLength }
  else
    { response with
      headers := (response.headers.insert .contentType response.body.mime.text).assign
        .contentLength (response.body.size.map toString) }

/-- The response with a status and a body, and the headers that they call for. -/
def withBody (status : Status) (body : Body) : Response := normalize ⟨status, .empty, body⟩

/-- The successful response with a body; without content if the body has none. -/
def ofBody (body : Body) : Response :=
  withBody (if body.isEmpty then .noContent else .ok) body

end Response

structure StreamedResponse where
  status : Status
  headers : Headers
  body : ChannelBody

def Response.streamed (response : Response) : StreamedResponse :=
  ⟨response.status, response.headers, response.body.toChannel⟩

end HttpDispatch
