import PortfolioManager.Python.Text

/-! # HTTP exchanges

What the HTTP library reports about one exchange: a response with the chunks of its decoded body as
they arrive, or one of its `RequestError`s, raised while sending or in the middle of the body.
-/

namespace PortfolioManager.Python

/-- The classes of `httpx.RequestError`; only the first two are `TimeoutException` and `NetworkError`. -/
inductive RequestError where
  | timeout
  | network
  | protocol
  | proxy
  | unsupportedProtocol
  | decoding
  | tooManyRedirects
deriving DecidableEq

structure HttpRequest where
  method : String
  path : String
  headers : List (String × String)
  form : List (String × String)
deriving DecidableEq

/-- A response; reading its body may be interrupted after the chunks. -/
structure HttpResponse where
  statusCode : ℕ
  header : String → Option String
  chunks : List Bytes
  interruption : Option RequestError

/-- The body as far as it arrives. -/
def HttpResponse.body (response : HttpResponse) : Bytes := response.chunks.flatten

/-- The status is one of success. -/
def HttpResponse.Succeeds (response : HttpResponse) : Prop := 200 ≤ response.statusCode ∧ response.statusCode < 300

abbrev HttpOutcome := Except RequestError HttpResponse

end PortfolioManager.Python
