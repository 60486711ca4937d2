import CodeOutline.Proofs.Settings.Layering
import CodeOutline.Proofs.Text.SmallLetters
import Mathlib

/-!
# Files with settings

A key at the top of a document may be an address, with dots or brackets in it. Where it is none, the
value that the document has for a setting stands where one looks for it: in the table of the
section, under the name of the setting, both in any letters.

A value that the caller overrides has no part in the settings. So two documents that differ in such
a value only make the same settings, or fail alike.

## Main definitions

* `Toml.settingIn?`: what a document says about a setting
* `Toml.IsWellKeyed`: the keys of a document are no addresses and differ by more than their case
* `Toml.DifferOnlyIn`: two documents differ in the value of one setting only

## Main results

* `Address.ofKey_of_plain`: what a key without dots and brackets stands for
* `Layer.value?_ofDocument`: the value that a document has for a setting
* `Layer.value?_of_differOnlyIn`: documents that differ in one setting agree on the others
* `Settings.load_layered`: what is loaded from layers
-/

namespace CodeOutline

/-! ### Keys -/

/-- A sign of ASCII stays in a text in small letters. -/
theorem Text.mem_lowerAfter {c : Char} {cs : List Char} (hascii : c.toNat < 0x80)
    (hsmall : smallLetter c = c) (h : c ∈ cs) (before : List Char) : c ∈ lowerAfter before cs := by
  induction cs generalizing before with
  | nil => cases h
  | cons d cs ih =>
    rw [lowerAfter, List.mem_append]
    rcases List.mem_cons.1 h with rfl | hmem
    · rw [if_neg (ne_sigma_of_ascii hascii), smallForm_of_ascii hascii, hsmall]
      exact .inl List.mem_cons_self
    · exact .inr (ih hmem (d :: before))

/-- A sign that is in a key is in the key in small letters. -/
theorem Text.mem_lowercase {c : Char} {key : String} (hascii : c.toNat < 0x80)
    (hsmall : smallLetter c = c) (h : c ∈ key.toList) : c ∈ (lowercase key).toList := by
  rw [lowercase, String.toList_ofList]
  exact mem_lowerAfter hascii hsmall h []

/-- A key has neither dots nor brackets in it. -/
def Address.IsPlain (key : String) : Prop :=
  '.' ∉ key.toList ∧ '[' ∉ key.toList

instance (key : String) : Decidable (Address.IsPlain key) :=
  inferInstanceAs (Decidable (_ ∧ _))

namespace Address

theorem readSteps_of_plain {d : Char} (count : Nat) (rest : List Char) (hdot : d ≠ '.')
    (hbracket : d ≠ '[') : readSteps count (d :: rest) = none := by
  cases count <;> simp [readSteps, hdot, hbracket]

/-- A plain key stands for itself. -/
theorem ofKey_of_plain {key : String} (h : IsPlain key) : ofKey key = [.key key] := by
  rw [ofKey, ofText?]
  split
  · rfl
  · rename_i htaken
    have hsplit := List.takeWhile_append_dropWhile (p := isKeyChar) (l := key.toList)
    cases hrest : key.toList.dropWhile isKeyChar with
    | nil =>
      rw [hrest, List.append_nil] at hsplit
      rw [hsplit, String.ofList_toList]
      cases key.toList.length <;> rfl
    | cons d rest =>
      have hmem : d ∈ key.toList := by
        rw [← hsplit, hrest]
        simp
      rw [readSteps_of_plain _ _ (fun heq => h.1 (heq ▸ hmem)) fun heq => h.2 (heq ▸ hmem)]
      rfl

example : ofKey "parser.indent_width" = [.key "parser", .key "indent_width"] := by decide +kernel

/-- The key of a section stands for itself, in any letters. -/
theorem isPlain_of_lowercase {key : String} {setting : Setting}
    (h : setting.sec.key = Text.lowercase key) : IsPlain key := by
  have hplain : IsPlain setting.sec.key := by
    cases setting <;> decide
  rw [h] at hplain
  exact ⟨fun hdot => hplain.1 (Text.mem_lowercase (by decide) (by decide) hdot),
    fun hbracket => hplain.2 (Text.mem_lowercase (by decide) (by decide) hbracket)⟩

end Address

/-! ### What a document says about a setting -/

namespace Toml

/-- The value under a key, in any letters. -/
def memberNamed? (key : String) (members : List (String × Toml)) : Option Toml :=
  (members.find? fun member => key = Text.lowercase member.1).map (·.2)

/-- The members of a table; anything else has none. -/
def members : Toml → List (String × Toml)
  | .table members => members
  | _ => []

/-- What a document says about a setting. -/
def settingIn? (document : List (String × Toml)) (setting : Setting) : Option Toml :=
  (memberNamed? setting.sec.key document).bind fun table =>
    memberNamed? setting.name table.members

/-- The keys of a table differ by more than their case. -/
def HasDistinctKeys (members : List (String × Toml)) : Prop :=
  (members.map fun member => Text.lowercase member.1).Nodup

/-- The keys of a document are plain and differ by more than their case, and so do those of the
sections, which are tables. -/
structure IsWellKeyed (document : List (String × Toml)) : Prop where
  plain : ∀ entry ∈ document, Address.IsPlain entry.1
  distinct : HasDistinctKeys document
  sections : ∀ entry ∈ document, ∀ setting : Setting, setting.sec.key = Text.lowercase entry.1 →
    ∃ members, entry.2 = .table members ∧ HasDistinctKeys members

/-- Where keys are distinct, there is at most one member under a key. -/
theorem filter_eq_toList_find? {members : List (String × Toml)} (h : HasDistinctKeys members)
    (key : String) : (members.filter fun member => key = Text.lowercase member.1) =
      (members.find? fun member => key = Text.lowercase member.1).toList := by
  induction members with
  | nil => rfl
  | cons head rest ih =>
    obtain ⟨hhead, hrest⟩ := List.nodup_cons.1 h
    by_cases hkey : key = Text.lowercase head.1
    · -- no later key is the same
      have hnone : (rest.filter fun member => key = Text.lowercase member.1) = [] := by
        rw [List.filter_eq_nil_iff]
        intro member hmember heq
        exact hhead (List.mem_map.2 ⟨member, hmember, (of_decide_eq_true heq).symm.trans hkey⟩)
      rw [List.filter_cons_of_pos (by simpa using hkey), hnone,
        List.find?_cons_of_pos (by simpa using hkey)]
      rfl
    · rw [List.filter_cons_of_neg (by simpa using hkey),
        List.find?_cons_of_neg (by simpa using hkey), ih hrest]

theorem ofMembers_eq_map (path : String) (members : List (String × Toml)) :
    Stored.ofMembers path members =
      members.map fun member => (member.1, Stored.ofToml path member.2) := by
  induction members with
  | nil => rfl
  | cons head rest ih => rw [Stored.ofMembers, ih, List.map_cons]

/-- The values under a name are those of the members with that name. -/
theorem under_ofMembers (path name : String) (members : List (String × Toml)) :
    Stored.under name (Stored.ofMembers path members) =
      (members.filter fun member => name = Text.lowercase member.1).map fun member =>
        ([], Stored.ofToml path member.2) := by
  rw [ofMembers_eq_map, Stored.under, List.filter_map, List.map_map]
  rfl

end Toml

namespace Layer

open Toml

variable {path : String} {document document' : List (String × Toml)} {setting other : Setting}

theorem keepsSections_ofDocument (h : IsWellKeyed document) :
    (ofDocument path document).KeepsSections := by
  intro setting entry hentry
  obtain ⟨⟨key, value⟩, hmem, rfl⟩ := List.mem_map.1 hentry
  dsimp only
  rw [Address.ofKey_of_plain (h.plain _ hmem)]
  intro hkey
  obtain ⟨members, hvalue, -⟩ := h.sections _ hmem setting hkey
  obtain rfl : value = .table members := hvalue
  exact trivial

/-- What a table of a document puts at a setting. -/
theorem leading_table {key : String} (hplain : Address.IsPlain key) (setting : Setting)
    (members : List (String × Toml)) :
    leading setting.sec.key setting.name (Address.ofKey key, Stored.ofToml path (.table members)) =
      if setting.sec.key = Text.lowercase key then
        (members.filter fun member => setting.name = Text.lowercase member.1).map fun member =>
          ([], Stored.ofToml path member.2)
      else [] := by
  rw [Address.ofKey_of_plain hplain, Stored.ofToml, leading, under_ofMembers]

/-- An entry that leads elsewhere puts nothing at a setting. -/
theorem leading_eq_nil {key : String} (hplain : Address.IsPlain key)
    (hother : setting.sec.key ≠ Text.lowercase key) (value : Stored) :
    leading setting.sec.key setting.name (Address.ofKey key, value) = [] := by
  rw [Address.ofKey_of_plain hplain]
  cases value with
  | scalar | list => rfl
  | table => exact if_neg hother

theorem leadingTo_ofDocument (h : IsWellKeyed document) (setting : Setting) :
    (ofDocument path document).leadingTo setting.sec.key setting.name =
      ((settingIn? document setting).map fun value => ([], Stored.ofToml path value)).toList := by
  let g (entry : String × Toml) :=
    leading setting.sec.key setting.name (Address.ofKey entry.1, Stored.ofToml path entry.2)
  -- only the entry of the section leads to the setting
  have hsection : document.flatMap g =
      (document.filter fun entry => setting.sec.key = Text.lowercase entry.1).flatMap g := by
    have hplain := h.plain
    clear h
    induction document with
    | nil => rfl
    | cons head rest ih =>
      obtain ⟨hhead, hrest⟩ := List.forall_mem_cons.1 hplain
      by_cases hkey : setting.sec.key = Text.lowercase head.1
      · rw [List.filter_cons_of_pos (by simpa using hkey), List.flatMap_cons, List.flatMap_cons,
          ih hrest]
      · rw [List.filter_cons_of_neg (by simpa using hkey), List.flatMap_cons, ih hrest,
          show g head = [] from leading_eq_nil hhead hkey _, List.nil_append]
  rw [leadingTo, ofDocument, List.flatMap_map]
  change document.flatMap g = _
  rw [hsection, filter_eq_toList_find? h.distinct, settingIn?, memberNamed?]
  cases hfound : document.find? fun entry => setting.sec.key = Text.lowercase entry.1 with
  | none => rfl
  | some entry =>
    have hmem := List.mem_of_find?_eq_some hfound
    have hkey : setting.sec.key = Text.lowercase entry.1 := by
      simpa using List.find?_some hfound
    obtain ⟨members, hvalue, hdistinct⟩ := h.sections entry hmem setting hkey
    have hlead : g entry = (members.filter fun member =>
        setting.name = Text.lowercase member.1).map fun member =>
          ([], Stored.ofToml path member.2) := by
      change leading _ _ (Address.ofKey entry.1, Stored.ofToml path entry.2) = _
      rw [hvalue, leading_table (h.plain entry hmem), if_pos hkey]
    rw [Option.toList_some, List.flatMap_singleton, hlead, filter_eq_toList_find? hdistinct,
      Option.map_some, Option.bind_some, hvalue, memberNamed?, Toml.members]
    cases members.find? fun member => setting.name = Text.lowercase member.1 <;> rfl

/-- **The value of a document for a setting is what the document says about it**, a table with its
keys in small letters. -/
theorem value?_ofDocument (h : IsWellKeyed document) (setting : Setting) :
    (ofDocument path document).value? setting =
      Stored.present? ((settingIn? document setting).map fun value =>
        Stored.laidOver none (Stored.ofToml path value)) := by
  rw [value?_eq (keepsSections_ofDocument h), leadingTo_ofDocument h]
  cases settingIn? document setting <;> rfl

end Layer

/-! ### Documents that differ in one setting -/

namespace Toml

/-- Two tables have the same keys, with the same values but for those under one key. -/
def DifferOnlyUnder (key : String) (differ : Toml → Toml → Prop) :
    List (String × Toml) → List (String × Toml) → Prop :=
  List.Forall₂ fun member member' => member.1 = member'.1 ∧
    (member.2 = member'.2 ∨ key = Text.lowercase member.1 ∧ differ member.2 member'.2)

/-- Two documents differ in the value of one setting only. -/
def DifferOnlyIn (setting : Setting) : List (String × Toml) → List (String × Toml) → Prop :=
  DifferOnlyUnder setting.sec.key fun table table' => ∃ members members',
    table = .table members ∧ table' = .table members' ∧
      DifferOnlyUnder setting.name (fun _ _ => True) members members'

theorem under_of_differOnlyUnder {name other : String} {differ : Toml → Toml → Prop} (path : String)
    (hother : other ≠ name) {members members' : List (String × Toml)}
    (h : DifferOnlyUnder name differ members members') :
    Stored.under other (Stored.ofMembers path members) =
      Stored.under other (Stored.ofMembers path members') := by
  rw [under_ofMembers, under_ofMembers]
  induction h with
  | nil => rfl
  | @cons member member' rest rest' hhead _ ih =>
    obtain ⟨hkey, hvalue⟩ := hhead
    by_cases hname : other = Text.lowercase member.1
    · have hsame : member.2 = member'.2 :=
        hvalue.resolve_right fun hdiffer => hother (hname.trans hdiffer.1.symm)
      rw [List.filter_cons_of_pos (by simpa using hname),
        List.filter_cons_of_pos (by simpa [hkey] using hname), List.map_cons, List.map_cons, ih,
        hsame]
    · rw [List.filter_cons_of_neg (by simpa using hname),
        List.filter_cons_of_neg (by simpa [hkey] using hname), ih]

end Toml

namespace Layer

open Toml

variable {path : String} {document document' : List (String × Toml)} {setting other : Setting}

theorem leadingTo_of_differOnlyIn (path : String) (hother : other ≠ setting)
    (h : DifferOnlyIn setting document document') :
    (ofDocument path document).leadingTo other.sec.key other.name =
      (ofDocument path document').leadingTo other.sec.key other.name := by
  induction h with
  | nil => rfl
  | @cons entry entry' rest rest' hhead _ ih =>
    obtain ⟨key, value⟩ := entry
    obtain ⟨key', value'⟩ := entry'
    obtain ⟨rfl, hvalue⟩ : key = key' ∧ _ := hhead
    change leading _ _ (Address.ofKey key, Stored.ofToml path value) ++ leadingTo _ _ _ =
      leading _ _ (Address.ofKey key, Stored.ofToml path value') ++ leadingTo _ _ _
    refine congrArg₂ _ ?_ ih
    rcases hvalue with hsame | ⟨hkey, members, members', htable, htable', hmembers⟩
    · rw [show value = value' from hsame]
    · obtain rfl : value = .table members := htable
      obtain rfl : value' = .table members' := htable'
      have hname : other.name ≠ setting.name := fun heq => hother (Setting.name_injective heq)
      have hunder := under_of_differOnlyUnder path hname hmembers
      rw [under_ofMembers, under_ofMembers] at hunder
      have hplain : Address.IsPlain key := Address.isPlain_of_lowercase hkey
      rw [leading_table hplain, leading_table hplain, hunder]

/-- Documents that differ in one setting have the same values for the others. -/
theorem value?_of_differOnlyIn (hother : other ≠ setting)
    (h : DifferOnlyIn setting document document') (hkept : (ofDocument path document).KeepsSections)
    (hkept' : (ofDocument path document').KeepsSections) :
    (ofDocument path document).value? other = (ofDocument path document').value? other := by
  rw [value?_eq hkept, value?_eq hkept', leadingTo_of_differOnlyIn path hother h]

end Layer

/-! ### What is loaded -/

namespace Settings

open Toml

variable {workspace workspace' : Workspace} {file file' : SettingsFile} {overrides : Overrides}
  {user user' : Layer}

/-- Where no file is found, none is looked at. -/
theorem userLayer_usual_of_unread
    (h : ∀ path ∈ SettingsFile.usual.paths, ∃ reason, workspace.read path = .error reason) :
    userLayer workspace .usual = .ok [] := by
  have hnone : firstFile? workspace SettingsFile.usual.paths = none := by
    -- the paths are tried one after another, whatever they are
    generalize SettingsFile.usual.paths = paths at h
    induction paths with
    | nil => rfl
    | cons path paths ih =>
      obtain ⟨⟨reason, hreason⟩, hpaths⟩ := List.forall_mem_cons.1 h
      rw [firstFile?, hreason]
      exact ih hpaths
  unfold userLayer
  rw [hnone]

/-- What the caller asks for hides what a file says. -/
theorem load_congr (huser : userLayer workspace file = .ok user)
    (huser' : userLayer workspace' file' = .ok user') (hkept : user.KeepsSections)
    (hkept' : user'.KeepsSections)
    (h : ∀ setting, overrides.value? setting = none → user.value? setting = user'.value? setting) :
    load workspace file overrides = load workspace' file' overrides := by
  rw [load_eq_assemble huser hkept, load_eq_assemble huser' hkept']
  refine congrArg assemble (funext fun setting => ?_)
  rw [highest, highest]
  cases hasked : overrides.value? setting with
  | some value => rfl
  | none => rw [h setting hasked]

/-- A level of no width is refused, wherever it comes from. -/
theorem exists_error_of_highest (huser : userLayer workspace file = .ok user)
    (hkept : user.KeepsSections) (h : highest overrides user .indentWidth = .ok (0 : Nat)) :
    ∃ error, load workspace file overrides = .error error := by
  cases hload : load workspace file overrides with
  | error error => exact ⟨error, rfl⟩
  | ok settings =>
    rw [load_eq_assemble huser hkept, assemble_eq_ok_iff] at hload
    obtain ⟨hwidth, hvalue⟩ := hload
    have hzero : settings.indentWidth = 0 :=
      (Except.ok.inj (h.symm.trans (hvalue .indentWidth))).symm
    omega

/-- **Each setting is what the highest layer that has it says.** As long as the file leaves the
sections tables, settings are loaded exactly if all five can be read there and a level has a width.
Where no file is to be looked at, or none of the usual name can be read, there are only the other
layers; a document has for a setting what stands in it under the section and the name. Two documents
that differ only in a value that the caller overrides make the same settings or fail alike. -/
theorem load_layered :
    (∀ workspace file overrides user,
      userLayer workspace file = .ok user → user.KeepsSections →
      (∀ settings, load workspace file overrides = .ok settings ↔
        1 ≤ settings.indentWidth ∧
          ∀ setting, highest overrides user setting = .ok (settings.get setting)) ∧
      (highest overrides user .indentWidth = .ok (0 : Nat) →
        ∃ error, load workspace file overrides = .error error)) ∧
    ((∀ workspace, userLayer workspace .none = .ok []) ∧
      (∀ workspace,
        (∀ path ∈ SettingsFile.usual.paths, ∃ reason, workspace.read path = .error reason) →
        userLayer workspace .usual = .ok []) ∧
      Layer.KeepsSections [] ∧ ∀ setting, Layer.value? [] setting = none) ∧
    (∀ path document, IsWellKeyed document → (Layer.ofDocument path document).KeepsSections ∧
      ∀ setting, (Layer.ofDocument path document).value? setting =
        Stored.present? ((settingIn? document setting).map fun value =>
          Stored.laidOver none (Stored.ofToml path value))) ∧
    ∀ workspace workspace' file file' overrides path document document' setting,
      userLayer workspace file = .ok (Layer.ofDocument path document) →
      userLayer workspace' file' = .ok (Layer.ofDocument path document') →
      (Layer.ofDocument path document).KeepsSections →
      (Layer.ofDocument path document').KeepsSections →
      DifferOnlyIn setting document document' → (overrides.value? setting).isSome = true →
      load workspace file overrides = load workspace' file' overrides := by
  refine ⟨fun workspace file overrides user huser hkept => ⟨fun settings => ?_, ?_⟩,
    ⟨fun _ => rfl, fun _ => userLayer_usual_of_unread, ?_, ?_⟩,
    fun path document h => ⟨Layer.keepsSections_ofDocument h, Layer.value?_ofDocument h⟩, ?_⟩
  · rw [load_eq_assemble huser hkept, assemble_eq_ok_iff]
  · exact exists_error_of_highest huser hkept
  · intro setting entry hentry
    cases hentry
  · exact fun setting => rfl
  · intro workspace workspace' file file' overrides path document document' setting huser huser'
      hkept hkept' hdiffer hasked
    refine load_congr huser huser' hkept hkept' fun other hother => ?_
    refine Layer.value?_of_differOnlyIn ?_ hdiffer hkept hkept'
    rintro rfl
    rw [hother] at hasked
    cases hasked

/-- A directory with nothing but a file with settings. -/
def alone (bytes : List UInt8) : Workspace :=
  ⟨fun path => if path = SettingsFile.usualName then .ok bytes else .error .notFound⟩

theorem userLayer_alone {bytes : List UInt8} {document : List (String × Toml)}
    (h : Toml.read (String.ofList (dropMark (Utf8.decodeLossy bytes).toList)) = some document) :
    userLayer (alone bytes) .usual = .ok (Layer.ofDocument "codoc.toml" document) := by
  have hfirst : firstFile? (alone bytes) SettingsFile.usual.paths =
      some (SettingsFile.usualName, bytes) := rfl
  have hnormal : Path.normal SettingsFile.usualName = "codoc.toml" := by decide +kernel
  unfold userLayer
  rw [hfirst]
  unfold fileLayer
  dsimp only
  rw [h, hnormal]

theorem isWellKeyed_one {key : String} (hplain : Address.IsPlain key) (name : String)
    (value : Toml) : IsWellKeyed [(key, .table [(name, value)])] where
  plain entry hentry := by
    obtain rfl := List.mem_singleton.1 hentry
    exact hplain
  distinct := by simp [HasDistinctKeys]
  sections entry hentry setting _ := by
    obtain rfl := List.mem_singleton.1 hentry
    exact ⟨_, rfl, by simp [HasDistinctKeys]⟩

/-- A width of zero in a file is refused. If the caller asks for another, it does not matter, and
neither would a width that is no number. Without a file, nothing is changed. -/
theorem load_layered_zero_width :
    -- the width is `0` in one file and `''` in the other
    let zero : Workspace := alone [91, 112, 97, 114, 115, 101, 114, 93, 10, 105, 110, 100, 101,
      110, 116, 95, 119, 105, 100, 116, 104, 32, 61, 32, 48]
    let noNumber : Workspace := alone [91, 112, 97, 114, 115, 101, 114, 93, 10, 105, 110, 100, 101,
      110, 116, 95, 119, 105, 100, 116, 104, 32, 61, 32, 39, 39]
    let bare : Workspace := ⟨fun _ => .error .notFound⟩
    (∃ error, load zero .usual ⟨none, none⟩ = .error error) ∧
      load zero .usual ⟨none, some 3⟩ = .ok { standard with indentWidth := 3 } ∧
      load zero .usual ⟨none, some 3⟩ = load noNumber .usual ⟨none, some 3⟩ ∧
      userLayer bare .usual = .ok [] ∧ load bare .usual ⟨none, none⟩ = .ok standard := by
  intro zero noNumber bare
  let document : List (String × Toml) := [("parser", .table [("indent_width", .integer 0)])]
  let document' : List (String × Toml) := [("parser", .table [("indent_width", .text "")])]
  have huser : userLayer zero .usual = .ok (Layer.ofDocument "codoc.toml" document) :=
    userLayer_alone (by cbv)
  have huser' : userLayer noNumber .usual = .ok (Layer.ofDocument "codoc.toml" document') :=
    userLayer_alone (by cbv)
  have hkeyed (value : Toml) : IsWellKeyed [("parser", .table [("indent_width", value)])] :=
    isWellKeyed_one (by decide) "indent_width" value
  have hdiffer : DifferOnlyIn .indentWidth document document' := by
    have hmembers : DifferOnlyUnder "indent_width" (fun _ _ => True)
        [("indent_width", .integer 0)] [("indent_width", .text "")] :=
      .cons ⟨rfl, .inr ⟨(Setting.lowercase_name .indentWidth).symm, trivial⟩⟩ .nil
    have hkey := (Setting.lowercase_key .indentWidth).symm
    exact .cons ⟨rfl, .inr ⟨hkey, _, _, rfl, rfl, hmembers⟩⟩ .nil
  obtain ⟨hloaded, ⟨-, hmissing, hkeptNone, hsilent⟩, hdocument, hsame⟩ := load_layered
  obtain ⟨hkept, hvalue⟩ := hdocument "codoc.toml" document (hkeyed _)
  obtain ⟨hkept', -⟩ := hdocument "codoc.toml" document' (hkeyed _)
  have hwidth : (Layer.ofDocument "codoc.toml" document).value? .indentWidth =
      some (.scalar (.integer 0) (some "codoc.toml")) := by
    rw [hvalue]
    cbv
  have hnone : ∀ setting, setting ≠ .indentWidth →
      (Layer.ofDocument "codoc.toml" document).value? setting = none := by
    intro setting hother
    have hunsaid : settingIn? document setting = none := by
      cases setting with
      | indentWidth => exact absurd rfl hother
      | _ => simp [settingIn?, memberNamed?, document, Setting.lowercase_words, Setting.sec,
          Section.diff, Section.output]
    rw [hvalue, hunsaid]
    rfl
  have hbare : userLayer bare .usual = .ok [] := hmissing bare fun _ _ => ⟨.notFound, rfl⟩
  refine ⟨?_, ?_, ?_, hbare, ?_⟩
  · refine (hloaded zero .usual ⟨none, none⟩ _ huser hkept).2 ?_
    rw [highest, hwidth]
    rfl
  · refine ((hloaded zero .usual ⟨none, some 3⟩ _ huser hkept).1 _).2 ⟨by decide, fun setting => ?_⟩
    by_cases hsetting : setting = .indentWidth
    · subst hsetting
      rfl
    · rw [highest, hnone setting hsetting]
      cases setting with
      | indentWidth => exact absurd rfl hsetting
      | _ => rfl
  · exact hsame zero noNumber .usual .usual ⟨none, some 3⟩ "codoc.toml" document document'
      .indentWidth huser huser' hkept hkept' hdiffer rfl
  · have hloadedBare := (hloaded bare .usual ⟨none, none⟩ _ hbare hkeptNone).1
    refine (hloadedBare standard).2 ⟨by decide, fun setting => ?_⟩
    rw [highest, hsilent]
    cases setting <;> rfl

/-- An empty table is no way to tell renamings from moves, but where a document has one, the usual
way holds. And a width under a key with a dot in it counts, although the document has no section. -/
theorem load_not_as_written :
    -- the lines `[diff]` and `move_detection = {}`, and the line `"parser.indent_width" = 4`
    let empty : Workspace := alone [91, 100, 105, 102, 102, 93, 10, 109, 111, 118, 101, 95, 100,
      101, 116, 101, 99, 116, 105, 111, 110, 32, 61, 32, 123, 125]
    let dotted : Workspace := alone [34, 112, 97, 114, 115, 101, 114, 46, 105, 110, 100, 101, 110,
      116, 95, 119, 105, 100, 116, 104, 34, 32, 61, 32, 52]
    let document : List (String × Toml) := [("diff", .table [("move_detection", .table [])])]
    let document' : List (String × Toml) := [("parser.indent_width", .integer 4)]
    (userLayer empty .usual = .ok (Layer.ofDocument "codoc.toml" document) ∧
      IsWellKeyed document ∧
      (∃ value, settingIn? document .moveDetection = some value ∧
        Setting.moveDetection.decode (Stored.ofToml "codoc.toml" value) =
          .error (.notChoice "MoveDetection")) ∧
      load empty .usual ⟨none, none⟩ = .ok standard) ∧
    userLayer dotted .usual = .ok (Layer.ofDocument "codoc.toml" document') ∧
      (∀ setting, settingIn? document' setting = none) ∧
      load dotted .usual ⟨none, none⟩ = .ok { standard with indentWidth := 4 } := by
  intro empty dotted document document'
  have huser : userLayer empty .usual = .ok (Layer.ofDocument "codoc.toml" document) :=
    userLayer_alone (by cbv)
  have huser' : userLayer dotted .usual = .ok (Layer.ofDocument "codoc.toml" document') :=
    userLayer_alone (by cbv)
  refine ⟨⟨huser, isWellKeyed_one (by decide) _ _, ⟨.table [], by cbv, rfl⟩, ?_⟩, huser', ?_, ?_⟩
  · rw [load, huser]
    decide +kernel
  · intro setting
    have hsmall : Text.lowercase "parser.indent_width" = "parser.indent_width" := by decide +kernel
    cases setting <;> simp [settingIn?, memberNamed?, document', hsmall, Setting.sec,
      Section.parser, Section.diff, Section.output]
  · rw [load, huser']
    decide +kernel

end Settings

end CodeOutline
