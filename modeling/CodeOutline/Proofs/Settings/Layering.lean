import CodeOutline.Proofs.Settings.Merging
import CodeOutline.Settings.Load

/-!
# Layers of settings

Three layers make the settings, and each setting is taken from the highest one that has a value for
it: what the caller asks for, then what the file says, then what nobody changed. What other layers
or other settings say has no part in it, not even where it could not be read. Only the settings as a
whole can still be refused, for a level of no width.

This takes for granted that the file leaves the three sections tables.

## Main definitions

* `Setting`: the settings, with their values and how these are read
* `Layer.value?`: the value that a layer has for a setting
* `Settings.highest`: the value in the highest layer that has one
* `Settings.assemble`: settings from their values

## Main results

* `Settings.load_eq_assemble`: what is loaded, errors included
* `Settings.assemble_eq_ok_iff`: when there are settings
-/

namespace CodeOutline

/-! ### Settings one by one -/

/-- A setting. -/
inductive Setting where
  | indentWidth
  | moveDetection
  | detectRefactorings
  | format
  | showLineNumbers
deriving DecidableEq, Repr

/-- The error for a value of the wrong type under a key. -/
def Mismatch.error (key : String) (mismatch : Mismatch) : SettingsError :=
  .wrongType mismatch.found mismatch.expected key mismatch.file

namespace Setting

/-- The section of a setting. -/
def sec : Setting → Section
  | .indentWidth => .parser
  | .moveDetection | .detectRefactorings => .diff
  | .format | .showLineNumbers => .output

/-- The name of a setting in its section. -/
def name : Setting → String
  | .indentWidth => "indent_width"
  | .moveDetection => "move_detection"
  | .detectRefactorings => "detect_refactors"
  | .format => "format"
  | .showLineNumbers => "show_line_numbers"

/-- What a setting can be set to. -/
abbrev Value : Setting → Type
  | .indentWidth => Nat
  | .moveDetection => MoveDetection
  | .detectRefactorings | .showLineNumbers => Bool
  | .format => OutputFormat

/-- The key of a setting in messages. -/
def key (setting : Setting) : String :=
  setting.sec.key ++ "." ++ setting.name

/-- What a stored value sets a setting to. -/
def decode : (setting : Setting) → Stored → Except SettingsError setting.Value
  | .indentWidth, stored => stored.natural.mapError (Mismatch.error (key .indentWidth))
  | .moveDetection, stored =>
    stored.choice "MoveDetection" MoveDetection.label [.owningFile, .pathPrefix]
  | .detectRefactorings, stored => stored.truth.mapError (Mismatch.error (key .detectRefactorings))
  | .format, stored => stored.choice "OutputFormat" OutputFormat.label [.text, .json]
  | .showLineNumbers, stored => stored.truth.mapError (Mismatch.error (key .showLineNumbers))

/-- The single value that stands for what a setting is set to. -/
def scalar : (setting : Setting) → setting.Value → Scalar
  | .indentWidth, width => .integer (Int.ofNat width)
  | .moveDetection, choice => .text (MoveDetection.label choice)
  | .detectRefactorings, b | .showLineNumbers, b => .boolean b
  | .format, choice => .text (OutputFormat.label choice)

/-- What is written for a value is read as that value. -/
theorem decode_scalar (setting : Setting) (value : setting.Value) :
    setting.decode (Settings.stated (setting.scalar value)) = .ok value := by
  cases setting with
  | indentWidth =>
    have hnatural : (Settings.stated (.integer (Int.ofNat value))).natural = .ok value := by
      have hnonneg : ¬ Int.ofNat value < 0 := Int.not_lt.2 (Int.natCast_nonneg value)
      rw [Settings.stated, Stored.natural, if_neg hnonneg]
      rfl
    rw [decode, scalar, hnatural]
    rfl
  | moveDetection => cases value <;> rfl
  | detectRefactorings | showLineNumbers => rfl
  | format => cases value <;> rfl

/-- The keys of the sections and the names of the settings are in small letters. -/
theorem lowercase_words :
    (Text.lowercase "parser" = "parser" ∧ Text.lowercase "diff" = "diff" ∧
      Text.lowercase "output" = "output") ∧
    Text.lowercase "indent_width" = "indent_width" ∧
    Text.lowercase "move_detection" = "move_detection" ∧
    Text.lowercase "detect_refactors" = "detect_refactors" ∧
    Text.lowercase "format" = "format" ∧
    Text.lowercase "show_line_numbers" = "show_line_numbers" := by
  decide +kernel

theorem lowercase_key (setting : Setting) : Text.lowercase setting.sec.key = setting.sec.key := by
  cases setting <;> simp [sec, Section.parser, Section.diff, Section.output, lowercase_words]

theorem lowercase_name (setting : Setting) : Text.lowercase setting.name = setting.name := by
  cases setting <;> simp [name, lowercase_words]

theorem name_injective : Function.Injective name := by
  intro a b h
  cases a <;> cases b <;> first | rfl | exact absurd h (by decide)

end Setting

namespace Settings

/-- What a setting is set to. -/
def get (settings : Settings) : (setting : Setting) → setting.Value
  | .indentWidth => settings.indentWidth
  | .moveDetection => settings.moveDetection
  | .detectRefactorings => settings.detectRefactorings
  | .format => settings.format
  | .showLineNumbers => settings.showLineNumbers

/-- Settings from what each is set to, the errors that come first first. -/
def assemble (value : (setting : Setting) → Except SettingsError setting.Value) :
    Except SettingsError Settings := do
  let indentWidth ← value .indentWidth
  let moveDetection ← value .moveDetection
  let detectRefactorings ← value .detectRefactorings
  let format ← value .format
  let showLineNumbers ← value .showLineNumbers
  checked ⟨indentWidth, moveDetection, detectRefactorings, format, showLineNumbers⟩

theorem bind_eq_ok_iff {ε α β : Type} {x : Except ε α} {f : α → Except ε β} {b : β} :
    x >>= f = .ok b ↔ ∃ a, x = .ok a ∧ f a = .ok b := by
  cases x with
  | error e => exact iff_of_false nofun nofun
  | ok a => exact ⟨fun h => ⟨a, rfl, h⟩, fun ⟨_, ha, h⟩ => Except.ok.inj ha ▸ h⟩

/-- Settings come of values that can be read, if a level has a width. -/
theorem assemble_eq_ok_iff {value : (setting : Setting) → Except SettingsError setting.Value}
    {settings : Settings} : assemble value = .ok settings ↔
      1 ≤ settings.indentWidth ∧ ∀ setting, value setting = .ok (settings.get setting) := by
  constructor
  · intro h
    unfold assemble at h
    simp only [bind_eq_ok_iff] at h
    obtain ⟨indentWidth, hindentWidth, moveDetection, hmoveDetection, detectRefactorings,
      hdetectRefactorings, format, hformat, showLineNumbers, hshowLineNumbers, h⟩ := h
    rw [checked] at h
    split at h
    · cases h
    · rename_i hwidth
      obtain rfl := Except.ok.inj h
      refine ⟨Nat.one_le_iff_ne_zero.2 hwidth, fun setting => ?_⟩
      cases setting <;> assumption
  · rintro ⟨hwidth, hvalue⟩
    rw [assemble, hvalue, hvalue, hvalue, hvalue, hvalue]
    exact if_neg (Nat.one_le_iff_ne_zero.1 hwidth)

end Settings

/-! ### Values in sections -/

namespace Section

variable {α : Type} {sec : Section} {name : String} {root value : Stored}

/-- A setting has a value in a table of its section. -/
def Holds (sec : Section) (name : String) (root value : Stored) : Prop :=
  ∃ table, root.member? sec.key = some table ∧ table.IsTable ∧ table.member? name = some value

theorem holds_of_within? (htable : ∀ table ∈ root.member? sec.key, table.IsTable)
    (hvalue : root.within? sec.key name = some value) : sec.Holds name root value := by
  rw [Stored.within?, Option.bind_eq_some_iff] at hvalue
  obtain ⟨table, hsection, hmember⟩ := hvalue
  exact ⟨table, hsection, htable table hsection, hmember⟩

theorem field_of_holds (h : sec.Holds name root value) : ∃ table,
    sec.values root = .ok table ∧ sec.field name table = .ok (value, sec.key ++ "." ++ name) := by
  obtain ⟨table, hsection, htable, hmember⟩ := h
  cases table with
  | scalar | list => exact htable.elim
  | table members file =>
    have hlookup : members.lookup name = some value := hmember
    refine ⟨.table members file, ?_, ?_⟩
    · rw [values, hsection]
    · rw [field, hlookup]

theorem plain_of_holds (h : sec.Holds name root value)
    (decode : Stored → Except SettingsError α) : sec.plain name decode root = decode value := by
  obtain ⟨table, hvalues, hfield⟩ := field_of_holds h
  simp only [plain, hvalues, bind, Except.bind, hfield]

theorem typed_of_holds (h : sec.Holds name root value) (decode : Stored → Except Mismatch α) :
    sec.typed name decode root =
      (decode value).mapError (Mismatch.error (sec.key ++ "." ++ name)) := by
  obtain ⟨table, hvalues, hfield⟩ := field_of_holds h
  simp only [typed, hvalues, bind, Except.bind, hfield]
  cases decode value <;> rfl

end Section

namespace Settings

/-- The settings come of the values in the sections. -/
theorem ofStored_eq_assemble {root : Stored} {value : Setting → Stored}
    (h : ∀ setting : Setting, setting.sec.Holds setting.name root (value setting)) :
    ofStored root = assemble fun setting => setting.decode (value setting) := by
  have hindentWidth : Section.parser.Holds "indent_width" root _ := h .indentWidth
  have hmoveDetection : Section.diff.Holds "move_detection" root _ := h .moveDetection
  have hdetectRefactorings : Section.diff.Holds "detect_refactors" root _ := h .detectRefactorings
  have hformat : Section.output.Holds "format" root _ := h .format
  have hshowLineNumbers : Section.output.Holds "show_line_numbers" root _ := h .showLineNumbers
  rw [ofStored, Section.typed_of_holds hindentWidth, Section.plain_of_holds hmoveDetection,
    Section.typed_of_holds hdetectRefactorings, Section.plain_of_holds hformat,
    Section.typed_of_holds hshowLineNumbers]
  rfl

end Settings

/-! ### Values of layers -/

namespace Layer

/-- The sections stay tables. -/
def KeepsSections (layer : Layer) : Prop :=
  ∀ setting : Setting, layer.Keeps setting.sec.key

/-- The value that a layer has for a setting. An empty table is merged key by key into whatever
another layer has, so it is none. -/
def value? (layer : Layer) (setting : Setting) : Option Stored :=
  Stored.present? ((Stored.ofLayers [layer]).within? setting.sec.key setting.name)

theorem value?_eq {layer : Layer} (h : layer.KeepsSections) (setting : Setting) :
    layer.value? setting =
      Stored.present? (Stored.layAll none (layer.leadingTo setting.sec.key setting.name)) :=
  congrArg Stored.present? (Stored.within?_apply setting.name (h setting) (.table [] none))

theorem leadingTo_settings (settings : Settings) (setting : Setting) :
    settings.layer.leadingTo setting.sec.key setting.name =
      [([], Settings.stated (setting.scalar (settings.get setting)))] := by
  cases setting <;>
    simp [leadingTo, Settings.layer, leading, Stored.under, Setting.lowercase_words, Setting.sec,
      Setting.name, Section.parser, Section.diff, Section.output, Setting.scalar, Settings.get]

theorem keepsSections_settings (settings : Settings) : settings.layer.KeepsSections := by
  intro setting
  simp [Keeps, Settings.layer, EntryKeeps, Stored.IsTable]

end Layer

namespace Overrides

/-- What the caller asks to set a setting to. -/
def value? (overrides : Overrides) : (setting : Setting) → Option setting.Value
  | .indentWidth => overrides.indentWidth
  | .format => overrides.format
  | .moveDetection | .detectRefactorings | .showLineNumbers => none

theorem leadingTo_layer (overrides : Overrides) (setting : Setting) :
    overrides.layer.leadingTo setting.sec.key setting.name =
      ((overrides.value? setting).map fun value =>
        (([] : Address), Settings.stated (setting.scalar value))).toList := by
  obtain ⟨format, indentWidth⟩ := overrides
  cases setting <;> cases format <;> cases indentWidth <;>
    simp [Layer.leadingTo, layer, Layer.leading, value?, Setting.lowercase_words, Setting.sec,
      Setting.name, Section.parser, Section.diff, Section.output, Setting.scalar]

theorem keepsSections_layer (overrides : Overrides) : overrides.layer.KeepsSections := by
  intro setting entry hentry
  rw [layer, List.mem_append, Option.mem_toList, Option.mem_toList] at hentry
  rcases hentry with hformat | hwidth
  · obtain ⟨format, -, rfl⟩ := Option.map_eq_some_iff.1 hformat
    exact trivial
  · obtain ⟨width, -, rfl⟩ := Option.map_eq_some_iff.1 hwidth
    exact trivial

end Overrides

/-! ### What is loaded -/

namespace Settings

variable {workspace : Workspace} {file : SettingsFile} {overrides : Overrides} {user : Layer}

/-- What a setting is set to in the highest layer that has a value for it: what the caller asks for,
then what the file says, then what nobody changed. -/
def highest (overrides : Overrides) (user : Layer) (setting : Setting) :
    Except SettingsError setting.Value :=
  match overrides.value? setting, user.value? setting with
  | some value, _ => .ok value
  | none, some stored => setting.decode stored
  | none, none => .ok (standard.get setting)

/-- What stands in a section after all layers. -/
def winner (overrides : Overrides) (user : Layer) (setting : Setting) : Stored :=
  (((overrides.value? setting).map fun value => stated (setting.scalar value)).or
    (user.value? setting)).getD (stated (setting.scalar (standard.get setting)))

theorem decode_winner (overrides : Overrides) (user : Layer) (setting : Setting) :
    setting.decode (winner overrides user setting) = highest overrides user setting := by
  rw [winner, highest]
  cases overrides.value? setting with
  | some value => exact setting.decode_scalar value
  | none =>
    cases user.value? setting with
    | some stored => rfl
    | none => exact setting.decode_scalar (standard.get setting)

/-- A layer over a single value. -/
theorem within?_apply_scalar {root : Stored} {single : Scalar} {setting : Setting}
    (h : user.KeepsSections)
    (hroot : root.within? setting.sec.key setting.name = some (stated single)) :
    (Stored.apply user root).within? setting.sec.key setting.name =
      (user.value? setting).or (some (stated single)) := by
  rw [Stored.within?_apply setting.name (h setting), hroot, stated, Stored.layAll_scalar,
    Layer.value?_eq h]

theorem holds_winner (h : user.KeepsSections) (setting : Setting) :
    setting.sec.Holds setting.name (Stored.ofLayers [standard.layer, user, overrides.layer])
      (winner overrides user setting) := by
  let first := Stored.apply standard.layer (.table [] none)
  let second := Stored.apply user first
  change setting.sec.Holds setting.name (Stored.apply overrides.layer second) _
  have hkept := overrides.keepsSections_layer setting
  have htables : ∀ table ∈ (Stored.apply overrides.layer second).member? setting.sec.key,
      table.IsTable := by
    refine Stored.isTable_of_apply hkept (Stored.isTable_of_apply (h setting)
      (Stored.isTable_of_apply (Layer.keepsSections_settings standard setting) ?_))
    exact fun table htable => nomatch htable
  refine Section.holds_of_within? htables ?_
  have hfirst : first.within? setting.sec.key setting.name =
      some (stated (setting.scalar (standard.get setting))) := by
    rw [Stored.within?_apply _ (Layer.keepsSections_settings standard setting),
      Layer.leadingTo_settings]
    rfl
  rw [Stored.within?_apply _ hkept, within?_apply_scalar h hfirst, Overrides.leadingTo_layer,
    winner]
  -- what the caller asks for is a single value and takes the place of anything
  cases overrides.value? setting with
  | some value => rfl
  | none => cases user.value? setting <;> rfl

/-- **Every setting is taken from the highest layer that has it**, and the settings are refused
exactly where one of these cannot be read or makes a level of no width. -/
theorem load_eq_assemble (huser : userLayer workspace file = .ok user) (h : user.KeepsSections) :
    load workspace file overrides = assemble (highest overrides user) := by
  rw [load, huser]
  change ofStored _ = _
  rw [ofStored_eq_assemble (holds_winner h)]
  exact congrArg assemble (funext (decode_winner overrides user))

end Settings

end CodeOutline
