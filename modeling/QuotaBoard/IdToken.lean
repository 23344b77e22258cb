import QuotaBoard.Json.Document
import QuotaBoard.Text.Base64
import QuotaBoard.Text.Utf8

/-!
# Id tokens

A credential may carry an id token, whose second segment holds claims about the account.  The
claims are read for what they say; the signature is not checked, since the token comes from the
store of credentials.  Whatever is wrong with a token, its claims are absent.
-/

namespace QuotaBoard.IdToken

/-- The bytes of a segment, whose digits may be of either alphabet and whose padding may be
missing. -/
def segmentBytes? (segment : List Char) : Option (List UInt8) :=
  Base64.decode? (Base64.fill (segment.map Base64.standardDigit))

/-- The claims of a token, an object. -/
def decode? (token : String) : Option Json := do
  let payload ← (Text.splitOnChar '.' (Text.trimList token.toList))[1]?
  guard !payload.isEmpty
  let claims ← Json.ofText? (← Utf8.text? (← segmentBytes? payload))
  guard claims.isObject
  some claims

/-- The claims of a value: a token that is still encoded, or an object of claims. -/
def claims? : Json → Option Json
  | .string token => decode? token
  | .object members => some (.object members)
  | _ => none

end QuotaBoard.IdToken
