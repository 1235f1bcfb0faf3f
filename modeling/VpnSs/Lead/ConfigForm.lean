/-
`ConfigViewController`: the form for a new config or a listed one. `setupContext` shows a config's
cipher but leaves `cryptoMethod` unset, and `done` reads the latter: an edit changes exactly the edited
fields when the cipher is one of them, and is refused when it is not. Any text is a port: one that
writes no number stands for 9103.
-/
import VpnSs.Lead.Home
import VpnSs.Lead.Refines

namespace VpnSs.Lead

open VpnSs.Swift

/-- The texts of the fields, the cipher chosen, and the config the form was opened on. -/
structure ConfigForm where
  name : Option Text
  address : Option Text
  port : Option Text
  crypto : Option Text
  password : Option Text
  cryptoMethod : Option Crypto
  config : Option Ref
  deriving DecidableEq

namespace ConfigForm

variable {Data : Type} (coder : JSONCoder Data)

/-! ## The source -/

/-- `setupContext`. The fields for a new config are empty. -/
def setupContext (m : DataManager Data) : Option Ref → ConfigForm
  | none =>
    { name := some [], address := some [], port := some [], crypto := some [], password := some [],
      cryptoMethod := none, config := none }
  | some config =>
    let c := m.heap.read config
    { name := some c.name, address := some c.address, port := some (decimal c.port),
      -- the cipher is shown, but not chosen
      crypto := some c.crypto.rawValue, password := some c.password, cryptoMethod := none, config := some config }

/-- The `didSet` of `cryptoMethod` shows the cipher. -/
def setCryptoMethod (form : ConfigForm) (crypto : Crypto) : ConfigForm :=
  { form with cryptoMethod := some crypto, crypto := some crypto.rawValue }

/-- The guard of `done`, and the config it builds; `id` is its `App.timestampId`. -/
def model (form : ConfigForm) (id : Text) : Option Config := do
  let name ← form.name
  let address ← form.address
  let port ← form.port
  let crypto ← form.cryptoMethod
  let password ← form.password
  if name.isEmpty || address.isEmpty || port.isEmpty || password.isEmpty then none
  else some { id, name, address, port := (int port).getD 9103, crypto, password }

/-- `done`: the store after it, and the tip shown in place of leaving the screen. -/
def done (form : ConfigForm) (m : DataManager Data) (id : Text) : DataManager Data × Option Text :=
  match form.model id with
  | none => (m, some (text "配置未完成!"))
  | some model =>
    match form.config with
    | some config => ((m.updateObject config model).updateConfig coder config, none)
    | none => ((m.newConfig model).addConfig coder m.heap.next, none)

/-! ## What the user enters -/

/-- New contents for some of the fields. -/
structure Edits where
  name : Option Text := none
  address : Option Text := none
  port : Option Text := none
  crypto : Option Crypto := none
  password : Option Text := none

/-- Only the sheet of ciphers edits the field of the cipher. -/
def edit (form : ConfigForm) (e : Edits) : ConfigForm :=
  let form :=
    { form with
      name := e.name.or form.name
      address := e.address.or form.address
      port := e.port.or form.port
      password := e.password.or form.password }
  match e.crypto with
  | none => form
  | some crypto => form.setCryptoMethod crypto

/-- Texts that are not empty, and a port that is a number. -/
structure Edits.Valid (e : Edits) : Prop where
  name : ∀ t ∈ e.name, t ≠ []
  address : ∀ t ∈ e.address, t ≠ []
  port : ∀ t ∈ e.port, (int t).isSome
  password : ∀ t ∈ e.password, t ≠ []

/-- The new contents in the edited fields, the old ones in the others. -/
def Edits.apply (e : Edits) (c : Contents) : Contents :=
  { name := e.name.getD c.name
    address := e.address.getD c.address
    port := (e.port.bind int).getD c.port
    crypto := e.crypto.getD c.crypto
    password := e.password.getD c.password }

/-- All five fields show something. -/
structure Filled (form : ConfigForm) : Prop where
  name : form.name.getD [] ≠ []
  address : form.address.getD [] ≠ []
  port : form.port.getD [] ≠ []
  crypto : form.crypto.getD [] ≠ []
  password : form.password.getD [] ≠ []

/-- The config that an accepted form builds. -/
structure Builds (form : ConfigForm) (id : Text) (model : Config) : Prop where
  id : model.id = id
  name : form.name = some model.name ∧ model.name ≠ []
  address : form.address = some model.address ∧ model.address ≠ []
  port : ∃ t, form.port = some t ∧ t ≠ [] ∧ model.port = (int t).getD 9103
  cryptoMethod : form.cryptoMethod = some model.crypto
  password : form.password = some model.password ∧ model.password ≠ []
  isSelected : model.isSelected = false

theorem model_eq_some {form : ConfigForm} {id : Text} {model : Config} :
    form.model id = some model ↔ form.Builds id model := by
  constructor
  · intro h
    simp only [ConfigForm.model, Option.bind_eq_bind, Option.bind_eq_some_iff] at h
    obtain ⟨name, hname, address, haddress, port, hport, crypto, hcrypto, password, hpassword, h⟩ := h
    split at h
    · cases h
    rename_i hfilled
    simp only [Bool.or_eq_true, List.isEmpty_iff, not_or] at hfilled
    obtain ⟨⟨⟨hn, ha⟩, hp⟩, hw⟩ := hfilled
    cases h
    exact ⟨rfl, ⟨hname, hn⟩, ⟨haddress, ha⟩, ⟨port, hport, hp, rfl⟩, hcrypto, ⟨hpassword, hw⟩, rfl⟩
  · rintro ⟨hid, ⟨hname, hn⟩, ⟨haddress, ha⟩, ⟨port, hport, hp, hnum⟩, hcrypto, ⟨hpassword, hw⟩, hsel⟩
    simp only [ConfigForm.model, hname, haddress, hport, hcrypto, hpassword, Option.bind_eq_bind, Option.bind_some]
    rw [if_neg (by simp [hn, ha, hp, hw]), ← hid, ← hnum, ← hsel]

end ConfigForm

/-! ## Adding and editing in a reached store -/

namespace DataManager

variable {Data : Type} (coder : JSONCoder Data)

/-- A state of the store in some run of the app from valid stored configs. -/
def Reached (m : DataManager Data) : Prop :=
  ∃ heap defaults ops, ConfigList.Valid (loadConfig coder defaults) ∧
    Lts.Meets (step coder) Fresh (launch coder heap defaults) ops ∧
      Lts.run (step coder) (launch coder heap defaults) ops = some m

/-- Nothing but the contents of one listed config changed, and the list is stored and published. -/
structure EditedTo (m m' : DataManager Data) (c : Ref) (contents : Contents) : Prop where
  contents : (m'.heap.read c).contents = contents
  id : (m'.heap.read c).id = (m.heap.read c).id
  isSelected : (m'.heap.read c).isSelected = (m.heap.read c).isSelected
  configs : m'.configs = m.configs
  others : ∀ d ∈ m.configs, d ≠ c → m'.heap.read d = m.heap.read d
  stored : loadConfig coder m'.defaults = m'.heap.values m'.configs
  rxConfigs : m'.rxConfigsValue = m'.configs
  selectedConfig : m'.selectedConfigValue = m'.firstSelected

variable {coder}

theorem Reached.refines {m : DataManager Data} (h : m.Reached coder) :
    m.Refines coder (m.heap.values m.configs) ∧ ConfigList.Valid (m.heap.values m.configs) := by
  obtain ⟨heap, defaults, ops, hstored, hf, hrun⟩ := h
  obtain ⟨hr, hl⟩ := run_refines (refines_launch heap defaults) hstored hf hrun
  rw [hr.values]
  exact ⟨hr, hl⟩

theorem editedTo_edit {m : DataManager Data} (h : m.Reached coder) {c : Ref} (hc : c ∈ m.configs) (model : Config) :
    m.EditedTo coder ((m.updateObject c model).updateConfig coder c) c model.contents := by
  obtain ⟨hr, hl⟩ := h.refines
  have hv := values_updateObject hr hl model hc
  have hsave : (m.updateObject c model).updateConfig coder c = (m.updateObject c model).save coder := by
    apply updateConfig_self (m.updateObject c model) _ hc
    rw [ids_eq hv, ConfigList.map_id_edit]; exact hl.nodup
  have hread (d : Ref) : ((m.updateObject c model).heap.read d) =
      if d = c then (m.heap.read d).update model else m.heap.read d :=
    Heap.read_modify m.heap c d fun v => v.update model
  have hsaved : ((m.updateObject c model).save coder).Refines coder _ := refines_save hr.live rfl
  rw [hsave]
  constructor
  · show ((m.updateObject c model).heap.read c).contents = _
    rw [hread, if_pos rfl, Config.contents_update]
  · show ((m.updateObject c model).heap.read c).id = _
    rw [hread, if_pos rfl, Config.update_id]
  · show ((m.updateObject c model).heap.read c).isSelected = _
    rw [hread, if_pos rfl, Config.update_isSelected]
  · rfl
  · intro d _ hd
    show (m.updateObject c model).heap.read d = _
    rw [hread, if_neg hd]
  · exact hsaved.saved
  · exact hsaved.rx
  · exact hsaved.selected

end DataManager

namespace ConfigForm

variable {Data : Type} {coder : JSONCoder Data}

/-! ## Accepted forms -/

/-- An accepted form gave the config its contents. -/
def Produced (c : Config) : Prop :=
  ∃ (form : ConfigForm) (id : Text) (model : Config), form.model id = some model ∧ c.contents = model.contents

theorem rawValue_ne_nil (crypto : Crypto) : crypto.rawValue ≠ [] := by
  cases crypto <;> decide

/-- The port of a produced config is an `Int`, so that its text reads back. -/
theorem Produced.int_decimal {c : Config} (h : Produced c) : int (decimal c.port) = some c.port := by
  obtain ⟨form, id, model, hmodel, hc⟩ := h
  obtain ⟨t, -, -, hport⟩ := (model_eq_some.1 hmodel).port
  have hcport : c.port = (int t).getD 9103 := (congrArg Contents.port hc).trans hport
  rw [hcport]
  cases hint : int t with
  | none => decide
  | some n => exact Swift.int_decimal (int_range hint).1 (int_range hint).2

/-- Each field has its new contents or the old ones; the cipher is shown where it was chosen. -/
theorem edit_eq (form : ConfigForm) (e : Edits) :
    form.edit e =
      { name := e.name.or form.name
        address := e.address.or form.address
        port := e.port.or form.port
        crypto := (e.crypto.map Crypto.rawValue).or form.crypto
        password := e.password.or form.password
        cryptoMethod := e.crypto.or form.cryptoMethod
        config := form.config } := by
  unfold edit
  cases e.crypto <;> rfl

/-- A valid edit or the text shown: neither is empty. -/
theorem edited_ne_nil {t : Option Text} {old : Text} (ht : ∀ s ∈ t, s ≠ []) (hold : old ≠ []) :
    t.or (some old) = some (t.getD old) ∧ t.getD old ≠ [] := by
  cases t with
  | none => exact ⟨rfl, hold⟩
  | some s => exact ⟨rfl, ht s rfl⟩

/-- With the cipher among the valid edits of a produced config, the form builds the edited contents. -/
theorem edit_builds {m : DataManager Data} {c : Ref} (hc : Produced (m.heap.read c)) {e : Edits} (he : e.Valid)
    {crypto : Crypto} (hcrypto : e.crypto = some crypto) (id : Text) : ∃ model,
    ((setupContext m (some c)).edit e).Builds id model ∧ model.contents = e.apply (m.heap.read c).contents := by
  have hport := hc.int_decimal
  obtain ⟨form, id', model, hmodel, hcont⟩ := hc
  have hb := model_eq_some.1 hmodel
  have hname : (m.heap.read c).name ≠ [] := (congrArg Contents.name hcont).trans_ne hb.name.2
  have haddress : (m.heap.read c).address ≠ [] := (congrArg Contents.address hcont).trans_ne hb.address.2
  have hpassword : (m.heap.read c).password ≠ [] := (congrArg Contents.password hcont).trans_ne hb.password.2
  refine ⟨
    { id
      name := e.name.getD (m.heap.read c).name
      address := e.address.getD (m.heap.read c).address
      port := (int (e.port.getD (decimal (m.heap.read c).port))).getD 9103
      crypto
      password := e.password.getD (m.heap.read c).password }, ?_, ?_⟩
  · constructor
    · rfl
    · rw [edit_eq]; exact edited_ne_nil he.name hname
    · rw [edit_eq]; exact edited_ne_nil he.address haddress
    · have hnum : ∀ t ∈ e.port, t ≠ [] := by
        rintro t ht rfl
        cases he.port [] ht
      have hold : decimal (m.heap.read c).port ≠ [] := by
        intro hnil
        rw [hnil] at hport
        cases hport
      obtain ⟨hshown, hne⟩ := edited_ne_nil hnum hold
      refine ⟨_, ?_, hne, rfl⟩
      rw [edit_eq]; exact hshown
    · rw [edit_eq, hcrypto]; rfl
    · rw [edit_eq]; exact edited_ne_nil he.password hpassword
    · rfl
  · simp only [Config.contents, Edits.apply, hcrypto, Option.getD_some, Contents.mk.injEq, true_and, and_true]
    cases hp : e.port with
    | none => rw [Option.getD_none, hport]; rfl
    | some t =>
      obtain ⟨n, hn⟩ := Option.isSome_iff_exists.1 (he.port t hp)
      rw [Option.getD_some, Option.bind_some, hn]; rfl

/-- For every listed config that an accepted form produced, and all valid edits: `done` is accepted and
changes exactly the edited fields of that config, iff the cipher is among them. -/
theorem done_editedTo_iff {m : DataManager Data} (hm : m.Reached coder) {c : Ref} (hc : c ∈ m.configs)
    (hproduced : Produced (m.heap.read c)) {e : Edits} (he : e.Valid) (id : Text) :
    ((((setupContext m (some c)).edit e).done coder m id).2 = none ∧
      m.EditedTo coder (((setupContext m (some c)).edit e).done coder m id).1 c (e.apply (m.heap.read c).contents)) ↔
    e.crypto ≠ none := by
  constructor
  · rintro ⟨haccepted, -⟩ hnone
    -- without the cipher the guard fails
    have hmodel : ((setupContext m (some c)).edit e).model id = none := by
      apply Option.eq_none_iff_forall_ne_some.2
      intro model hmodel
      have hmethod := (model_eq_some.1 hmodel).cryptoMethod
      rw [edit_eq, hnone] at hmethod
      cases hmethod
    rw [done, hmodel] at haccepted
    cases haccepted
  · intro hsome
    obtain ⟨crypto, hcrypto⟩ := Option.ne_none_iff_exists'.1 hsome
    obtain ⟨model, hb, hcont⟩ := edit_builds hproduced he hcrypto id
    have hdone : ((setupContext m (some c)).edit e).done coder m id =
        ((m.updateObject c model).updateConfig coder c, none) := by
      rw [done, model_eq_some.2 hb]
      simp only [edit_eq, setupContext]
    rw [hdone, ← hcont]
    exact ⟨rfl, DataManager.editedTo_edit hm hc model⟩

/-- A store with one config. -/
def sampleStore : DataManager (List Config) := .launch .list noObjects (some [Config.sample "1"])

theorem sampleStore_reached : sampleStore.Reached .list :=
  ⟨noObjects, some [Config.sample "1"], [], ⟨by decide, by decide⟩, trivial, rfl⟩

/-- What the user entered for it. -/
def sampleEdits : Edits :=
  { name := some (text "n"), address := some (text "1.2.3.4"), port := some (text "8388"), crypto := some .AES256CFB,
    password := some (text "pw") }

theorem sampleStore_produced : Produced (sampleStore.heap.read 0) :=
  ⟨(setupContext sampleStore none).edit sampleEdits, text "1", Config.sample "1", by decide, rfl⟩

/-- The name and the cipher are edited. -/
theorem done_editedTo_sample :
    let e : Edits := { name := some (text "home"), crypto := some .RC4MD5 }
    let after := ((setupContext sampleStore (some 0)).edit e).done .list sampleStore (text "2")
    after.2 = none ∧ sampleStore.EditedTo .list after.1 0 (e.apply (sampleStore.heap.read 0).contents) :=
  (done_editedTo_iff (e := { name := some (text "home"), crypto := some .RC4MD5 }) sampleStore_reached (c := 0)
    (by decide) sampleStore_produced ⟨by decide, by decide, by decide, by decide⟩ (text "2")).2 (by decide)

/-- Only the name is edited: the cipher is shown, and the form is refused as unfinished. -/
theorem done_refuses_edit :
    let e : Edits := { name := some (text "home") }
    let form := (setupContext sampleStore (some 0)).edit e
    0 ∈ sampleStore.configs ∧ Produced (sampleStore.heap.read 0) ∧ e.Valid ∧
      form.crypto = some (Crypto.AES256CFB.rawValue) ∧
      form.done .list sampleStore (text "2") = (sampleStore, some (text "配置未完成!")) :=
  ⟨by decide, sampleStore_produced, ⟨by decide, by decide, by decide, by decide⟩, rfl, rfl⟩

/-! ## Refused forms -/

/-- Where a config is new or its cipher was chosen, the cipher shown is the one chosen. -/
theorem edit_shows {m : DataManager Data} {config : Option Ref} {e : Edits} (h : config = none ∨ e.crypto ≠ none) :
    let form := (setupContext m config).edit e
    (form.crypto.getD [] ≠ [] ↔ form.cryptoMethod ≠ none) ∧
      ∀ crypto, form.cryptoMethod = some crypto → form.crypto = some crypto.rawValue := by
  simp only [edit_eq]
  cases hcrypto : e.crypto with
  | some crypto =>
    constructor
    · exact iff_of_true (rawValue_ne_nil crypto) (Option.some_ne_none crypto)
    · rintro _ ⟨⟩; rfl
  | none =>
    obtain rfl := h.resolve_right fun hne => hne hcrypto
    constructor
    · exact iff_of_false (fun hne => hne rfl) (fun hne => hne rfl)
    · rintro _ ⟨⟩

theorem filled_iff {form : ConfigForm} (h : form.crypto.getD [] ≠ [] ↔ form.cryptoMethod ≠ none) (id : Text) :
    form.Filled ↔ ∃ model, form.Builds id model := by
  have hsome {t : Option Text} (ht : t.getD [] ≠ []) : t = some (t.getD []) := by
    cases t with
    | none => exact absurd rfl ht
    | some s => rfl
  constructor
  · intro hf
    obtain ⟨crypto, hcrypto⟩ := Option.ne_none_iff_exists'.1 (h.1 hf.crypto)
    refine ⟨
      { id
        name := form.name.getD []
        address := form.address.getD []
        port := (int (form.port.getD [])).getD 9103
        crypto
        password := form.password.getD [] }, ?_⟩
    exact ⟨rfl, ⟨hsome hf.name, hf.name⟩, ⟨hsome hf.address, hf.address⟩, ⟨_, hsome hf.port, hf.port, rfl⟩, hcrypto,
      ⟨hsome hf.password, hf.password⟩, rfl⟩
  · rintro ⟨model, hb⟩
    obtain ⟨t, hport, hne, -⟩ := hb.port
    constructor
    · rw [hb.name.1]; exact hb.name.2
    · rw [hb.address.1]; exact hb.address.2
    · rw [hport]; exact hne
    · rw [h, hb.cryptoMethod]; exact Option.some_ne_none _
    · rw [hb.password.1]; exact hb.password.2

/-- The list after an accepted form: the config is added, or the one edited is updated. -/
def listAfter (m : DataManager Data) (config : Option Ref) (model : Config) : List Config :=
  match config with
  | none => ConfigList.add (m.heap.values m.configs) model
  | some c => ConfigList.edit (m.heap.values m.configs) (m.heap.read c).id model

theorem done_refines {m : DataManager Data} (hm : m.Reached coder) {form : ConfigForm}
    (hconfig : ∀ c ∈ form.config, c ∈ m.configs) {id : Text} {model : Config} (hb : form.Builds id model) :
    (form.done coder m id).2 = none ∧ (form.done coder m id).1.Refines coder (listAfter m form.config model) := by
  obtain ⟨hr, hl⟩ := hm.refines
  rw [done, model_eq_some.2 hb]
  cases hform : form.config with
  | none => exact ⟨rfl, DataManager.addConfig_refines hr hb.isSelected⟩
  | some c =>
    have hc : c ∈ m.configs := hconfig c hform
    exact ⟨rfl, DataManager.edit_refines hr hl model ⟨hr.live c hc, rfl⟩ (.inl hc)⟩

/-- For all contents of the fields, of a new config or of one whose cipher is chosen: if all five are filled
in, `done` adds or updates the config with these contents, and the port is the number its text writes or
else 9103. If not, `done` changes nothing. -/
theorem done_spec {m : DataManager Data} (hm : m.Reached coder) {config : Option Ref}
    (hconfig : ∀ c ∈ config, c ∈ m.configs) {e : Edits} (hcrypto : config = none ∨ e.crypto ≠ none) (id : Text) :
    let form := (setupContext m config).edit e
    (form.Filled → ∃ model, form.Builds id model ∧ form.crypto = some model.crypto.rawValue ∧
      (form.done coder m id).2 = none ∧ (form.done coder m id).1.Refines coder (listAfter m config model)) ∧
    (¬form.Filled → form.done coder m id = (m, some (text "配置未完成!"))) := by
  obtain ⟨hmethod, hshown⟩ := edit_shows (m := m) hcrypto
  have hform : ((setupContext m config).edit e).config = config := by
    rw [edit_eq]
    cases config <;> rfl
  have hfilled := filled_iff hmethod id
  constructor
  · intro h
    obtain ⟨model, hb⟩ := hfilled.1 h
    have hdone := done_refines hm (by rwa [hform]) hb
    rw [hform] at hdone
    exact ⟨model, hb, hshown _ hb.cryptoMethod, hdone⟩
  · intro h
    have hmodel : ((setupContext m config).edit e).model id = none := by
      apply Option.eq_none_iff_forall_ne_some.2
      intro model hmodel
      exact h (hfilled.2 ⟨model, model_eq_some.1 hmodel⟩)
    simp only [done, hmodel]

theorem done_spec_sample : ∃ model,
    ((setupContext sampleStore none).edit sampleEdits).Builds (text "2") model ∧
      ((setupContext sampleStore none).edit sampleEdits).crypto = some model.crypto.rawValue ∧
      (((setupContext sampleStore none).edit sampleEdits).done .list sampleStore (text "2")).2 = none ∧
      (((setupContext sampleStore none).edit sampleEdits).done .list sampleStore (text "2")).1.Refines .list
        (listAfter sampleStore none model) :=
  (@done_spec _ .list _ sampleStore_reached none (by decide) sampleEdits (.inl rfl) (text "2")).1
    ⟨by decide, by decide, by decide, by decide, by decide⟩

/-- A port that is no number is stored as 9103, and one past the last port as it is. -/
theorem done_stores_any_port :
    let stored (port : String) :=
      let form := (setupContext sampleStore none).edit { sampleEdits with port := some (text port) }
      let after := form.done .list sampleStore (text "2")
      (after.1.heap.values after.1.configs).map Config.port
    int (text "abc") = none ∧ stored "abc" = [8388, 9103] ∧ stored "70000" = [8388, 70000] := by
  decide

/-- An accepted form is the `done` of the home screen that opened it. -/
theorem home_done {h : Home Data} {form : ConfigForm} {status : Status} {id : Text} {model : Config}
    (heditor : h.editor = some { config := form.config, status }) (hmodel : form.model id = some model) :
    h.done coder model = some { h with dataManager := (form.done coder h.dataManager id).1, editor := none } := by
  have hsel : model.select false = model := by
    rw [Config.select, ← (model_eq_some.1 hmodel).isSelected]
  unfold Home.done done
  rw [heditor, hmodel]
  cases form.config with
  | none => simp only [hsel]
  | some config => rfl

end ConfigForm

end VpnSs.Lead
