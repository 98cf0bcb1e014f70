import UserConfigs.Template

/-!
# The config document of a user

Every user has a config document : a fixed text in which only the path of the key pair
depends on the user (`Document.templateText`). `Document.render` fills in the user's number,
and `Document.fileName` names the file that holds it.
-/

namespace UserConfigs

/-- The number of a user. -/
abbrev Uid := UInt32

/-- The decimal digits of a user's number. -/
def Uid.decimal (uid : Uid) : String := Nat.repr uid.toNat

namespace Document

/-- The variable of the template that holds the user's number. -/
def uidKey : String := "uid"

/-- The service that every config points at. -/
def devnetRpcUrl : String := "https://api.devnet.solana.com"

/-- The directory with the key pairs of the users. -/
def keypairDir : String := "/Users/mfrager/Build/solana/aqua-dex/js/users"

/-- The address of the system program, which every config labels. -/
def systemProgramId : String := "11111111111111111111111111111111"

/-- The text of the document, with a tag in place of the user's number. -/
def templateText : String :=
  "---\n" ++
  "json_rpc_url: \"https://api.devnet.solana.com\"\n" ++
  "websocket_url: \"\"\n" ++
  "keypair_path: /Users/mfrager/Build/solana/aqua-dex/js/users/\x7b\x7b uid \x7d\x7d.json\n" ++
  "address_labels:\n" ++
  "  \"11111111111111111111111111111111\": System Program\n" ++
  "commitment: confirmed\n"

/-- The template of the document. -/
def template : Except Template.Error Template := Template.parse templateText

/-- The bindings for a user. -/
def context (uid : Uid) : Template.Context :=
  Fields.insert uidKey (.number (.whole uid.toNat)) []

/-- The document of a user. -/
def render [Template.World] (uid : Uid) : Except Template.Error String := do
  (← template).render (context uid)

/-- The name of the file with the document of a user. -/
def fileName (uid : Uid) : String := "user_" ++ uid.decimal ++ ".yml"

end Document

end UserConfigs
