import UserConfigs.Document

/-!
# Configs

A `Config` is what a config document says : two addresses of services, the path of a key
pair, labels for addresses, and a commitment. `Config.forUser` is the config of a user, and
`Config.Field` lists the fields by their names in documents.
-/

namespace UserConfigs

/-- What a config document says. -/
structure Config where
  jsonRpcUrl : String
  websocketUrl : String
  keypairPath : String
  /-- Labels by address. -/
  addressLabels : Fields String
  commitment : String
  deriving Repr, DecidableEq

namespace Config

/-- A field of a config. -/
inductive Field where
  | jsonRpcUrl
  | websocketUrl
  | keypairPath
  | addressLabels
  | commitment
  deriving Repr, DecidableEq

namespace Field

/-- All fields, in the order in which they are looked for. -/
def all : List Field := [jsonRpcUrl, websocketUrl, keypairPath, addressLabels, commitment]

/-- The name of a field in documents. -/
def name : Field → String
  | jsonRpcUrl => "json_rpc_url"
  | websocketUrl => "websocket_url"
  | keypairPath => "keypair_path"
  | addressLabels => "address_labels"
  | commitment => "commitment"

/-- The field with a name. -/
def ofName? (s : String) : Option Field := all.find? (·.name = s)

theorem ofName?_name (f : Field) : ofName? f.name = some f := by
  cases f <;> decide

end Field

/-- The config of a user. -/
def forUser (uid : Uid) : Config where
  jsonRpcUrl := Document.devnetRpcUrl
  websocketUrl := ""
  keypairPath := Document.keypairDir ++ "/" ++ uid.decimal ++ ".json"
  addressLabels := [(Document.systemProgramId, "System Program")]
  commitment := "confirmed"

end Config

end UserConfigs
