/-
`DataManager`: the configs, the two lazily created relays and the defaults entry. Configs are
shared objects, so the state holds a heap and lists of references. A run of the app is a sequence
of the store's operations, edits by the config screen, first reads of the relays, and restarts.
-/
import VpnSs.Lead.Config
import VpnSs.Lib.Heap
import VpnSs.Lib.Lts

namespace VpnSs.Lead

open VpnSs.Swift

/-- JSON coding of `[Config]`, which round-trips. `Data` is what `UserDefaults` keeps. -/
structure JSONCoder (Data : Type) where
  encode : List Config → Option Data
  decode : Data → Option (List Config)
  round_trip : ∀ configs, ∃ data, encode configs = some data ∧ decode data = some configs

/-- A coder that keeps the list as it is. -/
def JSONCoder.list : JSONCoder (List Config) :=
  { encode := some, decode := some, round_trip := fun configs => ⟨configs, rfl, rfl⟩ }

/-- A heap without objects. -/
def noObjects : Heap Config := { next := 0, read := fun _ => .sample "" }

/-- The objects, the fields of `DataManager.shared` and the entry under `configsKey`. A relay is
absent until first touched. -/
structure DataManager (Data : Type) where
  heap : Heap Config
  configs : List Ref
  rxConfigs : Option (List Ref)
  selectedConfig : Option (Option Ref)
  defaults : Option Data

namespace DataManager

variable {Data : Type} (coder : JSONCoder Data)

/-! ## The source -/

/-- `configs.filter{ $0.isSelected }.first` -/
def firstSelected (m : DataManager Data) : Option Ref := m.configs.find? fun c => (m.heap.read c).isSelected

/-- A lazy relay is created with the current value. -/
def rxConfigsValue (m : DataManager Data) : List Ref := m.rxConfigs.getD m.configs

def selectedConfigValue (m : DataManager Data) : Option Ref := m.selectedConfig.getD m.firstSelected

def touchRxConfigs (m : DataManager Data) : DataManager Data := { m with rxConfigs := some m.rxConfigsValue }

def touchSelectedConfig (m : DataManager Data) : DataManager Data :=
  { m with selectedConfig := some m.selectedConfigValue }

/-- `loadConfig`: an absent or unreadable entry is the empty list. -/
def loadConfig (defaults : Option Data) : List Config := (defaults.bind coder.decode).getD []

/-- `init`, over the objects that are already there: a new object for each stored config. -/
def launch (heap : Heap Config) (defaults : Option Data) : DataManager Data :=
  let loaded := heap.allocAll (loadConfig coder defaults)
  { heap := loaded.1, configs := loaded.2, rxConfigs := none, selectedConfig := none, defaults }

def notify (m : DataManager Data) : DataManager Data :=
  { m with rxConfigs := some m.configs, selectedConfig := some m.firstSelected }

/-- `save`: a list that does not encode removes the entry. -/
def save (m : DataManager Data) : DataManager Data :=
  notify { m with defaults := coder.encode (m.heap.values m.configs) }

def selecteConfig (m : DataManager Data) (config : Ref) : DataManager Data :=
  match m.configs.find? fun c => (m.heap.read c).id == (m.heap.read config).id with
  | none => m
  | some selected =>
    if (m.heap.read selected).isSelected then m
    else
      let heap := m.heap.modifyAll m.configs (Config.select false)
      save coder { m with heap := heap.modify selected (Config.select true) }

def addConfig (m : DataManager Data) (config : Ref) : DataManager Data :=
  let m := { m with configs := m.configs ++ [config] }
  -- the first config is saved by being selected, or not at all
  if m.configs.length == 1 then m.selecteConfig coder config else m.save coder

def deleteConfig (m : DataManager Data) (config : Ref) : DataManager Data :=
  let newConfigs := m.configs.filter fun c => (m.heap.read c).id != (m.heap.read config).id
  if newConfigs.length != m.configs.length then save coder { m with configs := newConfigs } else m

def updateConfig (m : DataManager Data) (config : Ref) : DataManager Data :=
  match m.configs.findIdx? fun c => (m.heap.read c).id == (m.heap.read config).id with
  | none => m
  | some index => save coder { m with configs := m.configs.set index config }

/-- `Config(name:address:port:crypto:password:)` -/
def newConfig (m : DataManager Data) (config : Config) : DataManager Data :=
  { m with heap := m.heap.alloc config }

/-- `config.update(with: model)` -/
def updateObject (m : DataManager Data) (config : Ref) (model : Config) : DataManager Data :=
  { m with heap := m.heap.modify config fun c => c.update model }

/-! ## Runs -/

/-- What happens to the store. An operation names an object of the heap, with the id it has. -/
inductive Op where
  | add (config : Config)
  | delete (config : Ref) (id : Text)
  | select (config : Ref) (id : Text)
  | edit (config : Ref) (id : Text) (model : Config)
  | touchRxConfigs
  | touchSelectedConfig
  | restart
  deriving DecidableEq

def ids (m : DataManager Data) : List Text := (m.heap.values m.configs).map Config.id

/-- The object named exists and has the id. -/
def Names (m : DataManager Data) (config : Ref) (id : Text) : Prop :=
  config < m.heap.next ∧ (m.heap.read config).id = id

instance (m : DataManager Data) (config : Ref) (id : Text) : Decidable (m.Names config id) :=
  inferInstanceAs (Decidable (_ ∧ _))

/-- One operation. A config is added when newly created, not selected; an edit is of an object of
`configs`, or of one whose id is not listed. A restart drops every object. -/
def step (m : DataManager Data) : Op → Option (DataManager Data)
  | .add config =>
    if config.isSelected = false then some ((m.newConfig config).addConfig coder m.heap.next) else none
  | .delete config id => if m.Names config id then some (m.deleteConfig coder config) else none
  | .select config id => if m.Names config id then some (m.selecteConfig coder config) else none
  | .edit config id model =>
    if m.Names config id ∧ (config ∈ m.configs ∨ id ∉ m.ids) then
      some ((m.updateObject config model).updateConfig coder config)
    else none
  | .touchRxConfigs => some m.touchRxConfigs
  | .touchSelectedConfig => some m.touchSelectedConfig
  | .restart => some (launch coder m.heap m.defaults)

end DataManager

end VpnSs.Lead
