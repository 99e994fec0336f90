import Mathlib.Data.List.Nodup
import Mathlib.Data.List.Pairwise
import WafWatch.Daemon.Launch
import WafWatch.Proofs.Result

/-!
This module describes the parts of the settings: each is a list of settings, with their names, their kinds, and the
ways to get and to set them. For any such list it is proved what variables of the environment and entries of a
document do to one setting, and that they do nothing to the others.
-/

namespace WafWatch

/-! ### Kinds -/

inductive SettingKind where
  | text
  | flag
  | words
  | numeral (limit : Nat)

namespace SettingKind

abbrev Carrier : SettingKind → Type
  | .text => String
  | .flag => Bool
  | .words => List String
  | .numeral _ => Nat

/--
What a value of a document means.
-/
def fieldType : (kind : SettingKind) → Toml.FieldType kind.Carrier
  | .text => .text
  | .flag => .flag
  | .words => .texts
  | .numeral limit => .natural limit

/--
What the value of a variable means, if it is usable.
-/
def read? : (kind : SettingKind) → List Char → Option kind.Carrier
  | .text => readSomeText?
  | .flag => readFlag?
  | .words => readCommand?
  | .numeral limit => Text.readNumeral? limit

end SettingKind

/-! ### Settings -/

/--
A setting of a part.
-/
structure Setting (σ : Type) where
  name : String
  kind : SettingKind
  get : σ → kind.Carrier
  set : kind.Carrier → σ → σ
  /-- There is a variable for the setting, named after the part and the setting. -/
  hasVariable : Bool := true
  /-- Another variable, which the one named after the setting prevails over. -/
  other? : Option String := none
  option? : Options → Option kind.Carrier := fun _ => none

/--
A part of the settings, with the record of its defaults.
-/
structure Part (σ : Type) where
  name : String
  settings : List (Setting σ)
  initial : σ

/--
The name `WAFSCOPE_SECTION_FIELD`.
-/
def variableName (part name : String) : String :=
  String.ofList ("WAFSCOPE_".toList ++ part.toList.map Char.toUpper ++ '_' :: name.toList.map Char.toUpper)

namespace Setting

variable {σ : Type}

/--
The variables of a setting. A later one prevails.
-/
def variableNames (part : String) (setting : Setting σ) : List String :=
  setting.other?.toList ++ if setting.hasVariable then [variableName part setting.name] else []

def overrides (part : String) (setting : Setting σ) : List (Override σ) :=
  (setting.variableNames part).map fun name => .of name setting.kind.read? setting.set

def field (setting : Setting σ) : Toml.RecordField σ :=
  .of setting.name setting.kind.fieldType setting.set

/--
What a variable says, if it is text and usable.
-/
def ofVariable? (setting : Setting σ) (environment : Environment) (name : String) : Option setting.kind.Carrier :=
  (environment.text? name).bind setting.kind.read?

/--
What the environment says of a setting: the variable that is named after it, else the other one.
-/
def ofEnvironment? (part : String) (setting : Setting σ) (environment : Environment) : Option setting.kind.Carrier :=
  (if setting.hasVariable then setting.ofVariable? environment (variableName part setting.name) else none).or
    (setting.other?.bind (setting.ofVariable? environment))

theorem ofEnvironment?_congr {setting : Setting σ} {part : String} {environment environment' : Environment}
    (h : ∀ name ∈ setting.variableNames part, environment.text? name = environment'.text? name)
    : setting.ofEnvironment? part environment = setting.ofEnvironment? part environment' := by
  unfold ofEnvironment? ofVariable?
  unfold variableNames at h
  congr 1
  . split
    . next hvariable => rw [h _ (by simp [hvariable])]
    . rfl
  . cases hother : setting.other? with
    | none => rfl
    | some other =>
      rw [Option.bind_some, Option.bind_some, h other (by simp [hother])]

/--
Each of two settings is left alone when the other one is set.
-/
structure Apart (setting other : Setting σ) : Prop where
  left : ∀ a record, setting.get (other.set a record) = setting.get record
  right : ∀ a record, other.get (setting.set a record) = other.get record

theorem apart_iff {setting other : Setting σ}
    : setting.Apart other
        ↔
      (∀ a record, setting.get (other.set a record) = setting.get record)
        ∧ ∀ a record, other.get (setting.set a record) = other.get record :=
  ⟨fun h => ⟨h.left, h.right⟩, fun h => ⟨h.1, h.2⟩⟩

instance : Std.Symm (Apart (σ := σ)) where
  symm _ _ h := ⟨h.right, h.left⟩

end Setting

/--
The settings of the part are all that there is to its record, and each of them is set on its own.
-/
structure Part.Lawful {σ : Type} (part : Part σ) : Prop where
  get_set : ∀ setting ∈ part.settings, ∀ a record, setting.get (setting.set a record) = a
  apart : part.settings.Pairwise Setting.Apart
  nodup : (part.settings.map (·.name)).Nodup
  ext : ∀ record record', (∀ setting ∈ part.settings, setting.get record = setting.get record') → record = record'

/-! ### The environment -/

section

variable {σ : Type} {setting : Setting σ}

theorem Override.run_of {α : Type} (environment : Environment) (record : σ) (name : String)
    (read : List Char → Option α) (set : α → σ → σ)
    : Override.run environment record (.of name read set)
        = ((environment.text? name).bind read).elim record fun a => set a record := by
  unfold Override.run Override.of
  dsimp only
  cases environment.text? name with
  | none => rfl
  | some text =>
    rw [Option.bind_some, Option.bind_some]
    cases read text with
    | none => rfl
    | some a => rfl

theorem Setting.get_foldl_own (hset : ∀ a record, setting.get (setting.set a record) = a) (part : String)
    (environment : Environment) (record : σ)
    : setting.get ((setting.overrides part).foldl (Override.run environment) record)
        = (setting.ofEnvironment? part environment).getD (setting.get record) := by
  have hone (record : σ) (name : String)
      : setting.get (Override.run environment record (.of name setting.kind.read? setting.set))
        = (setting.ofVariable? environment name).getD (setting.get record) := by
    rw [Override.run_of]
    unfold ofVariable?
    cases (environment.text? name).bind setting.kind.read? with
    | none => rfl
    | some a => exact hset a record
  unfold overrides variableNames ofEnvironment?
  cases setting.other? with
  | none =>
    split
    . simp [hone]
    . simp
  | some other =>
    split
    . simp only [Option.toList_some, List.singleton_append, List.map_cons, List.map_nil, List.foldl_cons,
        List.foldl_nil, hone, Option.bind_some, Option.getD_or]
    . simp [hone]

theorem Setting.get_foldl_apart {other : Setting σ} (hapart : setting.Apart other) (part : String)
    (environment : Environment) (record : σ)
    : setting.get ((other.overrides part).foldl (Override.run environment) record) = setting.get record := by
  unfold overrides
  rw [List.foldl_map]
  induction other.variableNames part generalizing record with
  | nil => rfl
  | cons name names ih =>
    rw [List.foldl_cons, ih, Override.run_of]
    cases (environment.text? name).bind other.kind.read? with
    | none => rfl
    | some a => exact hapart.left a record

theorem Setting.get_foldl_apart_all {settings : List (Setting σ)}
    (hapart : ∀ other ∈ settings, setting.Apart other) (part : String) (environment : Environment) (record : σ)
    : setting.get ((settings.flatMap (·.overrides part)).foldl (Override.run environment) record)
        = setting.get record := by
  induction settings generalizing record with
  | nil => rfl
  | cons other rest ih =>
    rw [List.forall_mem_cons] at hapart
    rw [List.flatMap_cons, List.foldl_append, ih hapart.2, get_foldl_apart hapart.1]

theorem Setting.get_foldl {settings : List (Setting σ)} (hapart : settings.Pairwise Apart)
    (hsetting : setting ∈ settings) (hset : ∀ a record, setting.get (setting.set a record) = a) (part : String)
    (environment : Environment) (record : σ)
    : setting.get ((settings.flatMap (·.overrides part)).foldl (Override.run environment) record)
        = (setting.ofEnvironment? part environment).getD (setting.get record) := by
  induction settings generalizing record with
  | nil => simp at hsetting
  | cons first rest ih =>
    rw [List.pairwise_cons] at hapart
    rw [List.flatMap_cons, List.foldl_append]
    rcases List.mem_cons.mp hsetting with rfl | hlater
    . -- the variables of the others come later, and leave the setting alone
      rw [get_foldl_apart_all hapart.1, get_foldl_own hset]
    . rw [ih hapart.2 hlater, get_foldl_apart (symm (hapart.1 setting hlater))]

end

namespace Part

variable {σ : Type} {part : Part σ} {setting : Setting σ}

def variableNames (part : Part σ) : List String :=
  part.settings.flatMap (·.variableNames part.name)

def overrides (part : Part σ) : List (Override σ) :=
  part.settings.flatMap (·.overrides part.name)

/--
The environment decides for each setting of a part what the variables of this setting say of it.
-/
theorem Lawful.get_override (h : part.Lawful) (hsetting : setting ∈ part.settings) (environment : Environment)
    (record : σ)
    : setting.get (part.overrides.foldl (Override.run environment) record)
        = (setting.ofEnvironment? part.name environment).getD (setting.get record) :=
  Setting.get_foldl h.apart hsetting (h.get_set setting hsetting) part.name environment record

end Part

/-! ### Documents -/

namespace Part

variable {σ : Type}

/--
What a document gives for a part of the settings: a table, or a list of its first settings in order.
-/
def entriesOf (part : Part σ) : Toml.Value → Toml.Entries
  | .table _ entries => entries
  | .list items => (part.settings.map (·.name.toList)).zip items
  | .tables earlier last =>
    (part.settings.map (·.name.toList)).zip ((earlier ++ [last]).map (.table .explicit ·))
  | _ => []

def entries (part : Part σ) (document : Toml.Entries) : Toml.Entries :=
  document.flatMap fun entry => if entry.1 = part.name.toList then part.entriesOf entry.2 else []

end Part

/--
The last value that is given for a name.
-/
def Toml.lastOf (name : String) (entries : Toml.Entries) : Option Toml.Value :=
  (entries.filterMap fun entry => if entry.1 = name.toList then some entry.2 else none).getLast?

theorem Toml.lastOf_cons (name : String) (entry : List Char × Toml.Value) (entries : Toml.Entries)
    : lastOf name (entry :: entries)
        = (lastOf name entries).or (if entry.1 = name.toList then some entry.2 else none) := by
  unfold lastOf
  rw [List.filterMap_cons]
  split
  . next h => rw [h, Option.or_none]
  . next value h =>
    rw [List.getLast?_cons, h]
    cases (List.filterMap _ entries).getLast? with
    | none => rfl
    | some last => rfl

namespace Part

variable {σ : Type} {part : Part σ} {setting : Setting σ}

/--
What a document gives for a setting.
-/
def given? (part : Part σ) (document : Toml.Entries) (setting : Setting σ) : Option Toml.Value :=
  Toml.lastOf setting.name (part.entries document)

/--
The values that are given for a setting are of its kind, and the last one is put into the record.
-/
structure Takes (setting : Setting σ) (entries : Toml.Entries) (record after : σ) : Prop where
  get_eq : setting.get after
    = ((Toml.lastOf setting.name entries).bind setting.kind.fieldType.decode).getD (setting.get record)
  isSome : ∀ value, Toml.lastOf setting.name entries = some value →
    (setting.kind.fieldType.decode value).isSome = true

theorem put_field_eq_ok {value : Toml.Value} {record after : σ} (h : setting.field.put value record = .ok after) :
    ∃ a, setting.kind.fieldType.decode value = some a ∧ setting.set a record = after := by
  unfold Setting.field Toml.RecordField.of at h
  dsimp only at h
  split at h
  . next a hvalue =>
    cases h
    exact ⟨a, hvalue, rfl⟩
  . contradiction

theorem Lawful.find?_field (h : part.Lawful) (hsetting : setting ∈ part.settings) :
    (part.settings.map (·.field)).find? (·.name.toList == setting.name.toList) = some setting.field := by
  cases hfirst : (part.settings.map (·.field)).find? (·.name.toList == setting.name.toList) with
  | none =>
    rw [List.find?_eq_none] at hfirst
    exact absurd (beq_self_eq_true _) (hfirst setting.field (List.mem_map_of_mem hsetting))
  | some field =>
    obtain ⟨other, hother, rfl⟩ := List.mem_map.mp (List.mem_of_find?_eq_some hfirst)
    have hname := List.find?_some hfirst
    rw [beq_iff_eq] at hname
    rw [List.inj_on_of_nodup_map h.nodup hother hsetting (String.toList_inj.mp hname)]

/--
The value of the first entry is put into the setting that it names, if it names one.
-/
theorem Lawful.takes_cons (h : part.Lawful) (hsetting : setting ∈ part.settings) {key : List Char}
    {value : Toml.Value} {entries : Toml.Entries} {record between after : σ}
    (hput : (match (part.settings.map (·.field)).find? (·.name.toList == key) with
      | some field => field.put value record
      | none => .ok record) = .ok between)
    (hrest : Takes setting entries between after)
    : Takes setting ((key, value) :: entries) record after := by
  obtain ⟨hget, hsome⟩ := hrest
  by_cases hkey : key = setting.name.toList
  . -- the value counts unless another one comes later
    rw [hkey, h.find?_field hsetting] at hput
    obtain ⟨a, hvalue, rfl⟩ := put_field_eq_ok hput
    rw [h.get_set setting hsetting] at hget
    have hlast : Toml.lastOf setting.name ((key, value) :: entries)
        = (Toml.lastOf setting.name entries).or (some value) := by
      rw [Toml.lastOf_cons, if_pos hkey]
    cases hlater : Toml.lastOf setting.name entries with
    | none =>
      rw [hlater] at hlast hget
      refine ⟨?_, ?_⟩
      . rw [hget, hlast, Option.or_some, Option.getD_none, Option.bind_some, hvalue]
        rfl
      . intro other hother
        rw [hlast] at hother
        cases hother
        rw [hvalue]
        rfl
    | some last =>
      rw [hlater] at hlast hget
      obtain ⟨b, hb⟩ := Option.isSome_iff_exists.mp (hsome last hlater)
      refine ⟨?_, ?_⟩
      . rw [hget, hlast, Option.or_some, Option.getD_some, Option.bind_some, hb]
        rfl
      . intro other hother
        rw [hlast] at hother
        cases hother
        rw [hb]
        rfl
  . have hbetween : setting.get between = setting.get record := by
      split at hput
      . next field hfirst =>
        obtain ⟨other, hother, rfl⟩ := List.mem_map.mp (List.mem_of_find?_eq_some hfirst)
        have hname := List.find?_some hfirst
        rw [beq_iff_eq] at hname
        obtain ⟨a, -, rfl⟩ := put_field_eq_ok hput
        refine (h.apart.forall hsetting hother ?_).left a record
        rintro rfl
        exact hkey hname.symm
      . cases hput
        rfl
    have hlast : Toml.lastOf setting.name ((key, value) :: entries) = Toml.lastOf setting.name entries := by
      rw [Toml.lastOf_cons, if_neg hkey, Option.or_none]
    exact ⟨by rw [hget, hlast, hbetween], by rwa [hlast]⟩

/--
Entries decide for each setting of a part what those of its name say of it.
-/
theorem Lawful.takes (h : part.Lawful) (hsetting : setting ∈ part.settings) {entries : Toml.Entries}
    {record after : σ} (hput : Toml.putEntries (part.settings.map (·.field)) record entries = .ok after)
    : Takes setting entries record after := by
  unfold Toml.putEntries at hput
  induction entries generalizing record with
  | nil =>
    cases hput
    exact ⟨rfl, nofun⟩
  | cons entry entries ih =>
    rw [List.foldlM_cons] at hput
    obtain ⟨between, hfirst, hrest⟩ := bind_eq_ok_iff.mp hput
    exact h.takes_cons hsetting hfirst (ih hrest)

theorem Lawful.putItems_eq (h : part.Lawful) (record : σ) (items : List Toml.Value)
    : Toml.putItems (part.settings.map (·.field)) record items
        = Toml.putEntries (part.settings.map (·.field)) record ((part.settings.map (·.name.toList)).zip items) := by
  have hfirst {settings : List (Setting σ)} (hsettings : ∀ setting ∈ settings, setting ∈ part.settings)
      (items : List Toml.Value) (record : σ)
      : ((settings.map (·.field)).zip items).foldlM (fun record pair => pair.1.put pair.2 record) record
          = Toml.putEntries (part.settings.map (·.field)) record ((settings.map (·.name.toList)).zip items) := by
    induction settings generalizing items record with
    | nil => rfl
    | cons setting settings ih =>
      cases items with
      | nil => rfl
      | cons item items =>
        rw [List.forall_mem_cons] at hsettings
        unfold Toml.putEntries
        simp only [List.map_cons, List.zip_cons_cons, List.foldlM_cons, h.find?_field hsettings.1]
        congr 1
        funext between
        exact ih hsettings.2 items between
  exact hfirst (fun _ hsetting => hsetting) items record

/--
A part is read from what its value stands for.
-/
theorem Lawful.put_record_eq_ok (h : part.Lawful) {τ : Type} {get : τ → σ} {set : σ → τ → τ} {value : Toml.Value}
    {record after : τ}
    (hput : (Toml.RecordField.record part.name (part.settings.map (·.field)) get set).put value record = .ok after)
    : ∃ inner, Toml.putEntries (part.settings.map (·.field)) (get record) (part.entriesOf value) = .ok inner
        ∧ set inner record = after := by
  unfold Toml.RecordField.record at hput
  dsimp only at hput
  cases value with
  | table kind entries => exact bind_pure_eq_ok_iff.mp hput
  | list items =>
    dsimp only at hput
    rw [h.putItems_eq] at hput
    exact bind_pure_eq_ok_iff.mp hput
  | tables earlier last =>
    dsimp only at hput
    rw [h.putItems_eq] at hput
    exact bind_pure_eq_ok_iff.mp hput
  | moment written => exact bind_pure_eq_ok_iff.mp hput
  | _ =>
    obtain ⟨inner, hinner, -⟩ := bind_pure_eq_ok_iff.mp hput
    contradiction

/--
The part is one of the fields of a record, and the others leave it alone.
-/
structure IsFieldOf {τ : Type} (part : Part σ) (fields : List (Toml.RecordField τ)) (get : τ → σ)
    (set : σ → τ → τ) : Prop where
  find?_eq : fields.find? (·.name.toList == part.name.toList)
    = some (.record part.name (part.settings.map (·.field)) get set)
  get_set : ∀ inner record, get (set inner record) = inner
  get_put : ∀ field ∈ fields, field.name ≠ part.name → ∀ value record after,
    field.put value record = .ok after → get after = get record

theorem Lawful.putEntries_part (h : part.Lawful) {τ : Type} {fields : List (Toml.RecordField τ)} {get : τ → σ}
    {set : σ → τ → τ} (hfield : part.IsFieldOf fields get set) {document : Toml.Entries} {record after : τ}
    (hput : Toml.putEntries fields record document = .ok after)
    : Toml.putEntries (part.settings.map (·.field)) (get record) (part.entries document) = .ok (get after) := by
  unfold Toml.putEntries at hput
  induction document generalizing record with
  | nil =>
    cases hput
    rfl
  | cons entry document ih =>
    rw [List.foldlM_cons] at hput
    obtain ⟨between, hfirst, hrest⟩ := bind_eq_ok_iff.mp hput
    have hlater := ih hrest
    unfold entries at hlater ⊢
    rw [List.flatMap_cons]
    split
    . next hkey =>
      rw [hkey, hfield.find?_eq] at hfirst
      obtain ⟨inner, hinner, rfl⟩ := h.put_record_eq_ok hfirst
      rw [hfield.get_set] at hlater
      unfold Toml.putEntries at hinner hlater ⊢
      rw [List.foldlM_append, hinner]
      exact hlater
    . next hkey =>
      have hbetween : get between = get record := by
        split at hfirst
        . next field hfind =>
          have hname := List.find?_some hfind
          rw [beq_iff_eq] at hname
          refine hfield.get_put field (List.mem_of_find?_eq_some hfind) ?_ _ _ _ hfirst
          intro hsame
          rw [hsame] at hname
          exact hkey hname.symm
        . cases hfirst
          rfl
      rw [List.nil_append, ← hbetween]
      exact hlater

end Part

end WafWatch
