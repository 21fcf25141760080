import SearchGateway.Dialogue
import SearchGateway.Http.Status
import SearchGateway.Url.Parser

/-!
# HTTP exchanges

A request is sent and answered, or it fails on the way.  What answers is not part of this
library: an exchange is a dialogue whose questions are requests.

    Http.send        sends a request and follows redirections
    Http.redirect?   where an answer sends a request next
-/

namespace SearchGateway.Http

inductive Method
  | get
  | post
  deriving DecidableEq, Repr

structure Request where
  method : Method
  url : Url
  body : Option String
  deriving DecidableEq, Repr

structure Reply where
  status : Nat
  contentType : Option String
  location : Option String
  body : String
  deriving DecidableEq, Repr

/-- Why there is no answer. -/
inductive Failure
  /-- The URL cannot be called at all. -/
  | unsendable (url : Url)
  | unreachable (url : Url)
  | timeout (url : Url)
  | broken (url : Url)
  | redirections (url : Url)
  deriving DecidableEq, Repr

def Failure.message : Failure → String
  | unsendable u => s!"builder error for url ({u.plainText})"
  | unreachable u => s!"error sending request for url ({u.plainText})"
  | timeout u => s!"error sending request for url ({u.plainText})"
  | broken u => s!"error sending request for url ({u.plainText})"
  | redirections u => s!"error following redirect for url ({u.plainText})"

abbrev Outcome := Except Failure Reply

/-- A computation that sends requests. -/
abbrev Exchange := Dialogue Request fun _ => Outcome

/-! ## Algorithm -/

/-- The longest URL that can be sent, in octets. -/
def maxUrlSize : Nat := 65534

/-- Whether a URL can be called: over HTTP, not too long, and with a host that holds no
quotes or braces. -/
def canSend (u : Url) : Bool :=
  ["http", "https"].contains u.scheme && u.text.utf8ByteSize ≤ maxUrlSize
    && (u.authority.map fun a => !a.server.toList.any "\"\x60\x7b\x7d".toList.contains).getD false

/-- The codes that may send a request elsewhere. -/
def redirects (code : Nat) : Bool := [301, 302, 303, 307, 308].contains code

/-- Where an answer sends a request next.  Two of the codes keep method and body. -/
def redirect? (r : Request) (a : Reply) : Option Request := do
  if !redirects a.status then none
  let url ← (r.url.resolve (← a.location)).toOption
  pure (if a.status ∈ [307, 308] then { r with url } else ⟨.get, url, none⟩)

/-- Sends a request; `onward` takes over where the answer sends it elsewhere. -/
def attempt (r : Request) (onward : Request → Exchange Outcome) : Exchange Outcome :=
  if !canSend r.url then .done (.error (.unsendable r.url))
  else .ask r fun
    | .error e => .done (.error e)
    | .ok a =>
      match redirect? r a with
      | none => .done (.ok a)
      | some next => onward next

/-- Sends a request and follows at most `left` redirections. -/
def follow : Nat → Request → Exchange Outcome
  | 0, r => attempt r fun next => .done (.error (.redirections next.url))
  | left + 1, r => attempt r (follow left)

def maxRedirections : Nat := 10

def send (r : Request) : Exchange Outcome := follow maxRedirections r

end SearchGateway.Http
