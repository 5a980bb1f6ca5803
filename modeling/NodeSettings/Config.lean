/-
# NodeSettings.Config -- the configuration of a node

Three sections, of which only the network section has settings.  A setting that
a document does not give has its default: no namespace, no topics, and zero for
both numbers.
-/
import NodeSettings.Text.Quoted
import NodeSettings.Text.Shown

namespace NodeSettings

open Text

set_option autoImplicit false

structure Execution where
deriving DecidableEq, Repr

structure Storage where
deriving DecidableEq, Repr

namespace Network

def defaultScope : String := ""
def defaultMaxPeers : Int64 := 0
def defaultPort : Int64 := 0

end Network

/-- Network settings; `scope` is the namespace.  Topics keep their order and
their duplicates, and neither number is checked beyond its width. -/
structure Network where
  scope : String := Network.defaultScope
  topics : List String := []
  maxPeers : Int64 := Network.defaultMaxPeers
  port : Int64 := Network.defaultPort
deriving DecidableEq, Repr

structure Config where
  execution : Execution := {}
  network : Network := {}
  storage : Storage := {}
deriving DecidableEq, Repr

/-- Where the configuration is looked for unless a path is given. -/
def defaultPath : String := "./config.json"

/-! ## Settings as far as a document gives them -/

structure GivenNetwork where
  scope : Option String := none
  topics : Option (List String) := none
  maxPeers : Option Int64 := none
  port : Option Int64 := none

def GivenNetwork.resolve (given : GivenNetwork) : Network where
  scope := given.scope.getD Network.defaultScope
  topics := given.topics.getD []
  maxPeers := given.maxPeers.getD Network.defaultMaxPeers
  port := given.port.getD Network.defaultPort

/-! ## Showing a configuration -/

def integerText (n : Int64) : String :=
  toString n.toInt

def topicsShown (topics : List String) : Shown :=
  .list (topics.map fun topic => .atom (quoted topic))

def Network.shown (network : Network) : Shown :=
  .record "NetworkConfig"
    [("namespace", .atom (quoted network.scope)), ("topics", topicsShown network.topics),
      ("max_peers", .atom (integerText network.maxPeers)),
      ("port", .atom (integerText network.port))]

def Config.shown (config : Config) : Shown :=
  .record "AppConfig"
    [("execution", .record "ExecutionConfig" []), ("network", config.network.shown),
      ("storage", .record "StorageConfig" [])]

end NodeSettings
