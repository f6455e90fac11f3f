import QueryGateway.Configuration.Validation
import QueryGateway.Router.Basic
import QueryGateway.Sql.ConnectionUrl

/-!
From configurations to routers.

Adapters are built in the order of their names, and the documents of an adapter are
inserted when it is built.  Engines for SQL come from outside: `connect` gives the
engine of a URL.
-/

namespace QueryGateway

/-- Why a gateway did not start. -/
inductive StartError where
  | connection (adapter : String)
  | seed (adapter collection : String) (error : Document.Error)
  | boot (error : BootError)
deriving Repr

namespace StartError

def message : StartError → String
  | .connection adapter => s!"Adapter '{adapter}': "
  | .seed adapter collection error =>
    s!"Adapter '{adapter}', collection '{collection}': {error.message}"
  | .boot error => s!"[{error.kind.code}] {error.message}"

end StartError

/-- Gives the engine of a URL, with a number of connections. -/
abbrev Connect := String → Nat → SqlEngine

namespace Configuration

/-- Inserts documents into the collections of a store. -/
def seedAll (adapter : String) : List (String × List Json) → Document.Store → Supply →
    Except StartError Document.Store × Supply
  | [], store, supply => (.ok store, supply)
  | (collection, documents) :: rest, store, supply =>
    match store.seed collection documents supply with
    | (.ok _, store, supply) => seedAll adapter rest store supply
    | (.error e, _, supply) => (.error (.seed adapter collection e), supply)

/-- Builds an adapter. -/
def buildAdapter (connect : Connect) (name : String) (supply : Supply) :
    AdapterSettings → Except StartError Adapter × Supply
  | .postgres url maxConnections =>
    if Sql.isConnectionUrl url then (.ok (.sql .numbered (connect url maxConnections)), supply)
    else (.error (.connection name), supply)
  | .memory collections =>
    let (store, supply) := seedAll name collections.entries .empty supply
    (store.map .document, supply)

/-- What came of building something. -/
structure Built (α : Type) where
  result : Except StartError α
  events : List Event
  supply : Supply

/-- Builds adapters, and adds them to those before. -/
def buildAdapters (connect : Connect) :
    List (String × AdapterSettings) → Adapters → Supply → Built Adapters
  | [], adapters, supply => { result := .ok adapters, events := [], supply }
  | (name, settings) :: rest, adapters, supply =>
    match buildAdapter connect name supply settings with
    | (.error e, supply) => { result := .error e, events := [], supply }
    | (.ok adapter, supply) =>
      let later := buildAdapters connect rest (adapters.insert name adapter) supply
      { later with events := .adapterRegistered :: later.events }

/-- Builds the router of a configuration. -/
def buildRouter (connect : Connect) (c : Configuration) (supply : Supply) : Built Router :=
  let built := buildAdapters connect c.adapters.entries .empty supply
  match built.result with
  | .error e => { result := .error e, events := built.events, supply := built.supply }
  | .ok adapters =>
    let resolver := c.tokenRules.map Access.Resolver.bearer
    let (router, events) := Router.boot .standard adapters resolver c.routes
    { result := router.mapError .boot, events := built.events ++ events, supply := built.supply }

end Configuration
end QueryGateway
