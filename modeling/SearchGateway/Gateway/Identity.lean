import SearchGateway.Access.Caller
import SearchGateway.Config.Settings
import SearchGateway.Gateway.Message
import SearchGateway.Text.Blank

/-!
# Who is calling

The proxy in front of the gateway names the caller in headers: a user, groups between
commas, and the addresses that the request came by, the caller's own first.

    callerOf      the caller that headers name
-/

namespace SearchGateway.Gateway

/-- The header that proxies keep the addresses in. -/
def forwardedHeader : String := "x-forwarded-for"

/-- A header's value without blanks around it, unless nothing is left. -/
def trimmedValue? (headers : List Header) (name : String) : Option (List Char) :=
  ((headerValue? headers name).map fun v => Text.trimChars v.toList).filter (· ≠ [])

/-- The pieces between commas, trimmed, blank ones left out. -/
def groupsOf (cs : List Char) : List String :=
  (((Text.pieces (· == ',') cs).map Text.trimChars).filter (· ≠ [])).map String.ofList

/-- What stands before the first comma, trimmed. -/
def addressOf (cs : List Char) : String := String.ofList (Text.trimChars (cs.takeWhile (· ≠ ',')))

/-- The caller that headers name. -/
def callerOf (s : Config.Server) (headers : List Header) : Access.Caller where
  user := (trimmedValue? headers s.userHeader).map String.ofList
  groups := ((trimmedValue? headers s.groupsHeader).map groupsOf).getD []
  address := (trimmedValue? headers forwardedHeader).map addressOf

end SearchGateway.Gateway
