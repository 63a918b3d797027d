/-! The error responses of the API. -/

namespace AlonSentinel.Api

/-- An error response: its status, as the constructor's name, and its message. -/
inductive ApiError where
  | badRequest (message : String)
  | unauthorized (message : String)
  | forbidden (message : String)
  | conflict (message : String)
  | notFound (message : String)
  | internal (message : String)
  deriving DecidableEq

/-- The message that stands for every internal error. -/
def internalServerErrorMessage : String := "internal server error"

end AlonSentinel.Api
