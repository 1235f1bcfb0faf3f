/-
The configuration entry of the app: its value, the edit `update(with:)`, and the dictionary that
takes it to the packet tunnel.
-/
import VpnSs.Swift.Text

namespace VpnSs.Lead

open VpnSs.Swift

inductive Crypto where
  | AES128CFB
  | AES192CFB
  | AES256CFB
  | CHACHA20
  | SALSA20
  | RC4MD5
  deriving DecidableEq, Repr

def Crypto.rawValue : Crypto → Text
  | AES128CFB => text "AES128CFB"
  | AES192CFB => text "AES192CFB"
  | AES256CFB => text "AES256CFB"
  | CHACHA20 => text "CHACHA20"
  | SALSA20 => text "SALSA20"
  | RC4MD5 => text "RC4MD5"

/-- The fields of a `VPNManager.Config` object. -/
structure Config where
  id : Text
  name : Text
  address : Text
  port : Int
  crypto : Crypto
  password : Text
  isSelected : Bool := false
  deriving DecidableEq, Repr

namespace Config

def update (c model : Config) : Config :=
  { c with
    name := model.name
    address := model.address
    port := model.port
    crypto := model.crypto
    password := model.password }

/-- `asDict()`, with the rule document of the app. -/
def asDict (ruleConf : Text) (c : Config) : Dictionary :=
  [(text "ss_address", .string c.address), (text "ss_port", .int c.port),
    (text "ss_crypto", .string c.crypto.rawValue), (text "ss_password", .string c.password),
    (text "ymal_conf", .string ruleConf)]

@[simp] theorem update_id (c model : Config) : (c.update model).id = c.id := rfl

@[simp] theorem update_isSelected (c model : Config) : (c.update model).isSelected = c.isSelected := rfl

/-- The flag alone. -/
def select (b : Bool) (c : Config) : Config := { c with isSelected := b }

@[simp] theorem select_id (b : Bool) (c : Config) : (c.select b).id = c.id := rfl

@[simp] theorem select_isSelected (b : Bool) (c : Config) : (c.select b).isSelected = b := rfl

@[simp] theorem select_select (a b : Bool) (c : Config) : (c.select a).select b = c.select b := rfl

/-- A newly created config with the id. -/
def sample (id : String) : Config :=
  { id := text id, name := text "n", address := text "1.2.3.4", port := 8388, crypto := .AES256CFB,
    password := text "pw" }

end Config

end VpnSs.Lead
