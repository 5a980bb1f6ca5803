/-
# NodeSettings.Schema -- the keys a configuration document may hold

The document is an object of three sections.  Only the network section has
settings; the other two have none, so every key in them is unknown.  Keys are
matched exactly, letter case included.
-/

namespace NodeSettings

set_option autoImplicit false

inductive Section where
  | execution
  | network
  | storage
deriving DecidableEq, Repr

namespace Section

def key : Section → String
  | execution => "executionConfig"
  | network => "networkConfig"
  | storage => "storageConfig"

def all : List Section :=
  [execution, network, storage]

def ofKey? (key : String) : Option Section :=
  all.find? fun s => s.key = key

end Section

/-- The settings of the network section; `scope` is its namespace. -/
inductive Setting where
  | scope
  | topics
  | maxPeers
  | port
deriving DecidableEq, Repr

namespace Setting

def key : Setting → String
  | scope => "namespace"
  | topics => "topics"
  | maxPeers => "maxPeers"
  | port => "port"

def all : List Setting :=
  [scope, topics, maxPeers, port]

def ofKey? (key : String) : Option Setting :=
  all.find? fun s => s.key = key

end Setting

end NodeSettings
