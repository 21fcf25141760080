import SearchGateway.Config.Setting
import SearchGateway.Policy.Settings
import SearchGateway.Url.Address

/-!
# The configuration

All that an operator can set, with what holds if nothing is set.

    Settings            the whole configuration
    Settings.address    where the gateway listens
    Settings.handler?   what is configured for a handler
-/

namespace SearchGateway.Config

/-- Where the gateway listens, how long a request may take, and which headers name the
caller. -/
structure Server where
  host : String
  port : Nat
  /-- In milliseconds. -/
  timeout : Nat
  bodyLimit : Nat
  userHeader : String
  groupsHeader : String

def Server.default : Server :=
  ⟨"0.0.0.0", 8080, 15000, 1048576, "x-solrgate-user", "x-solrgate-groups"⟩

structure Logging where
  level : String

def Logging.default : Logging := ⟨"info"⟩

/-- The backend and how long a call to it may take, in milliseconds. -/
structure Backend where
  baseUrl : String
  timeout : Nat

def Backend.default : Backend := ⟨"http://localhost:8983/solr/collection1", 10000⟩

/-- The entitlement service; if it is disabled nobody is restricted. -/
structure Entitlement where
  enabled : Bool
  url : Option String
  /-- In milliseconds. -/
  timeout : Nat

def Entitlement.default : Entitlement := ⟨false, none, 3000⟩

structure Suggest where
  /-- How many branches probe side by side. -/
  parallelism : Nat
  /-- How many candidates the backend is asked for, for each suggestion wanted. -/
  overfetch : Nat
  /-- How many suggestions are wanted if a request does not say. -/
  defaultCount : Nat
  probeHandler : String
  titleField : String

def Suggest.default : Suggest := ⟨4, 3, 10, "select", "title"⟩

/-- Values that a handler's requests start from, and values that no request can change. -/
structure Handler where
  defaults : Ordered Setting
  forced : Ordered Setting

def Handler.default : Handler := ⟨Ordered.empty, Ordered.empty⟩

structure Settings where
  server : Server
  logging : Logging
  backend : Backend
  entitlement : Entitlement
  suggest : Suggest
  /-- The parameters whose forced values are added to those of a request. -/
  cumulative : List String
  handlers : Ordered Handler
  policy : Policy.Settings Float

namespace Settings

def default : Settings :=
  ⟨.default, .default, .default, .default, .default, ["fq"], Ordered.empty, .default⟩

def handler? (s : Settings) (name : String) : Option Handler := s.handlers.find? name

/-- Where the gateway listens.  A host that is no address is any address. -/
def address (s : Settings) : String :=
  let host := s.server.host.toList
  let shown := match Url.V4.readStrict host, Url.V6.read host with
    | some a, _ => a.write
    | none, some a => "[" ++ a.writeMapped ++ "]"
    | none, none => "0.0.0.0"
  shown ++ ":" ++ toString s.server.port

end Settings

end SearchGateway.Config
