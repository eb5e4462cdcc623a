import DomainGen.Config.File
import DomainGen.Proofs.Config.Reloading
import DomainGen.Proofs.FileTree.Reading
import DomainGen.Proofs.Json.RoundTrip

/-!
# Saved configurations

A configuration that was resolved from plain data can be saved if no integer in it has too many digits
for a text. Then the file that is saved gives the configuration again, without any explicit entries and
whatever set was asked for: with its policies, all its templates, its custom entries and the values of
other settings as they are. With a longer integer, saving ends in a fault.

Written as entries, a configuration has its custom entries beside its settings. A custom entry with
the name of a setting takes its place there, and so it does in the file that is saved. What the
configuration itself holds is not touched.

* `readConfigFile_eq_ok` : a file with the JSON text of a mapping has its entries;
* `exists_text` : short entries of a configuration have a JSON text; `load_saved` : saving and loading
  them; `save_long` : long ones cannot be saved;
* `load_save` : **what was saved is loaded**, and exactly short entries are saved;
  `save_longLimit` : a setting that is too long;
* `exists_custom` : what is kept as custom entries; `get?_entries` : what is written under a name;
* `Unmasked` : no custom entry hides a setting behind another value;
* `load_save_custom` : **exactly an unmasked configuration is written with its own settings**, and then
  the file gives them back.
-/

/-! ## 1. Saving and loading -/

namespace DomainGen

open Data Entries

/-- A name of a JSON file is not empty. -/
theorem ne_empty_of_ofPath? {file : String} {format : ConfigFormat}
    (h : ConfigFormat.ofPath? (Path.ofString file) = some format) : file ≠ "" := by
  have hnone : ConfigFormat.ofPath? (Path.ofString "") = none := by decide +kernel
  rintro rfl
  rw [hnone] at h
  cases h

/-- A file with the JSON text of a mapping has its entries. -/
theorem readConfigFile_eq_ok {tree : FileTree} {file text : String} {es : Entries}
    (hformat : ConfigFormat.ofPath? (Path.ofString file) = some .json)
    (hthere : tree.exists? (Path.ofString file) = .ok true)
    (htext : tree.readText (Path.ofString file) "utf-8" = .ok text)
    (hread : Json.read text = .ok (.mapping es)) : readConfigFile tree file = .ok es := by
  unfold readConfigFile
  dsimp only
  rw [hthere]
  dsimp only [Except.mapError, bind, Except.bind]
  rw [hformat]
  dsimp only
  rw [htext]
  dsimp only [readConfigText]
  rw [hread]
  rfl

namespace Config

variable {tree : FileTree} {es : Entries} {asked : Option String} {c : Config} {file : String}

/-- Without a file the explicit entries are resolved. -/
theorem load_overrides (tree : FileTree) (es : Entries) (asked : Option String) :
    load tree (.mapping es) none asked = resolve es [] asked := by
  cases es <;> rfl

theorem load_file (hfile : file ≠ "") (h : readConfigFile tree file = .ok es) :
    load tree .null (some file) asked = resolve [] es asked := by
  unfold load
  split
  · rename_i heq
    cases heq
  · rename_i heq
    exact absurd (Option.some.inj heq) hfile
  · rename_i f _ heq
    cases heq
    rw [h]
    rfl

/-- The entries of a configuration have a JSON text if they are members with short integers, and it is
    read as them. -/
theorem exists_text (hentries : c.entries = .ok es) (hes : areMembers isShort es = true) :
    ∃ text, c.text = .ok text ∧ Json.read text = .ok (.mapping es) ∧ '\r' ∉ text.toList := by
  obtain ⟨text, hwrite, hread, hno⟩ :=
    Json.read_write (show (Data.mapping es).isJson isShort = true from hes)
  exact ⟨text, except_bind_eq_ok.mpr ⟨es, hentries, hwrite⟩, hread, hno⟩

/-- A configuration with short entries is saved, and the file has these entries. -/
theorem load_saved (hentries : c.entries = .ok es) (hes : areMembers isShort es = true)
    (hformat : ConfigFormat.ofPath? (Path.ofString file) = some .json)
    (hwritable : tree.Writable (Path.ofString file)) :
    ∃ tree', save tree c file = (tree', none) ∧
      load tree' .null (some file) none = resolve [] es none := by
  obtain ⟨text, htext, hread, hno⟩ := exists_text hentries hes
  -- the file is emptied before the text is written
  obtain ⟨emptied, hempty, _, hstill, _⟩ := FileTree.readText_writeText hwritable
    (show '\r' ∉ "".toList by decide)
  obtain ⟨tree', hwrite, hthere, _, hback⟩ := FileTree.readText_writeText hstill hno
  refine ⟨tree', ?_, load_file (ne_empty_of_ofPath? hformat)
    (readConfigFile_eq_ok hformat hthere hback hread)⟩
  unfold save
  dsimp only
  rw [hempty]
  dsimp only
  rw [htext]
  dsimp only
  rw [hwrite]

/-- A configuration with an integer that is too long is not saved. -/
theorem save_long (hentries : c.entries = .ok es) (hes : areMembers anySize es = true)
    (hlong : areMembers isShort es = false) (hwritable : tree.Writable (Path.ofString file)) :
    (save tree c file).2 = some (.fault .badValue) := by
  have htext : c.text = .error .badValue :=
    except_bind_eq_error.mpr (.inr ⟨es, hentries, Json.write_long (x := .mapping es) hes hlong⟩)
  obtain ⟨emptied, hempty, _⟩ := FileTree.readText_writeText hwritable
    (show '\r' ∉ "".toList by decide)
  unfold save
  dsimp only
  rw [hempty]
  dsimp only
  rw [htext]

/-- The configuration is saved, and the file gives it again. -/
def ComesBack (tree : FileTree) (c : Config) (file : String) : Prop :=
  ∃ tree', save tree c file = (tree', none) ∧ load tree' .null (some file) none = .ok c

/-- **What was saved is loaded.** A configuration that is resolved from members without an entry for the
    custom entries comes back from every JSON file that can be written, if no integer among the members
    is too long. In general it comes back exactly if none of its own entries is too long, and otherwise
    saving it ends in a fault. -/
theorem load_save (hes : areMembers anySize es = true) (hcustom : es.get? "custom" = none)
    (hformat : ConfigFormat.ofPath? (Path.ofString file) = some .json)
    (hwritable : tree.Writable (Path.ofString file))
    (h : load tree (.mapping es) none asked = .ok c) :
    (areMembers isShort es = true → ComesBack tree c file) ∧
    ∃ fs, c.entries = .ok fs ∧ areMembers anySize fs = true ∧
      (areMembers isShort fs = true → ComesBack tree c file) ∧
      (areMembers isShort fs = false → (save tree c file).2 = some (.fault .badValue)) := by
  rw [load_overrides] at h
  obtain ⟨fs, hentries, hfs, hagain⟩ := resolve_again hes hcustom h
  have hback : areMembers isShort fs = true → ComesBack tree c file := by
    intro hshort
    obtain ⟨tree', hsave, hload⟩ := load_saved hentries hshort hformat hwritable
    exact ⟨tree', hsave, hload.trans hagain⟩
  refine ⟨fun hshort => ?_, fs, hentries, hfs, hback, fun hlong =>
    save_long hentries hfs hlong hwritable⟩
  obtain ⟨fs', hentries', hfs', _⟩ := resolve_again hshort hcustom h
  obtain rfl := Except.ok.inj (hentries.symm.trans hentries')
  exact hback hfs'

/-- An entry that is no setting, with the least integer that has too many digits for a text. -/
def longLimit : Entries := ofFields [("limit", .int textlessFrom)]

/-- **A configuration with an integer that is too long cannot be saved.** -/
theorem save_longLimit : areMembers anySize longLimit = true ∧ longLimit.get? "custom" = none ∧
    ∃ c, load ⟨[], []⟩ (.mapping longLimit) none none = .ok c ∧
      (save ⟨[], []⟩ c "settings.json").2 = some (.fault .badValue) := by
  have hlong : isShort textlessFrom = false := by
    unfold isShort hasText
    rw [Int.natAbs_natCast]
    exact decide_eq_false (Nat.lt_irrefl textlessFrom)
  have hwritable : FileTree.Writable ⟨[], []⟩ (Path.ofString "settings.json") :=
    ⟨["settings.json"], by decide +kernel, by decide⟩
  have hentries : ({ standard with custom := .mapping longLimit } : Config).entries =
      .ok (standard.ownEntries.update longLimit) := rfl
  have hlimit : Entries.lookup? (standard.ownEntries.update longLimit) (.text "limit") =
      some (.int textlessFrom) := rfl
  refine ⟨rfl, rfl, { standard with custom := .mapping longLimit }, rfl,
    save_long hentries rfl ?_ hwritable⟩
  rw [Bool.eq_false_iff]
  intro hshort
  have hfits := isJson_of_lookup? hshort hlimit
  rw [isJson, hlong] at hfits
  cases hfits

/-- Entries with options of a role, a template, a setting of another kind than expected and an entry
    that is no setting. -/
def givenEntries : Entries :=
  ofFields [("naming", .mapping (ofFields [("event", .mapping (ofFields [("folder", .text "raised"),
      ("prefix_aggregate_name", .bool true)]))])),
    ("templates", .mapping (ofFields [("fault", .text "error.j2")])), ("atomic", .text "often"),
    ("retries", .list [.int 3, .float (.finite false 4503599627370496 (-53)), .null])]

theorem load_save_given : ∃ c tree',
    load ⟨[], []⟩ (.mapping givenEntries) none (some "typescript") = .ok c ∧
      save ⟨[], []⟩ c "settings.json" = (tree', none) ∧
      load tree' .null (some "settings.json") none = .ok c ∧
      c.atomic = .text "often" ∧ c.custom = .mapping (givenEntries.besides fieldNames) := by
  have hformat : ConfigFormat.ofPath? (Path.ofString "settings.json") = some .json := by
    decide +kernel
  have hwritable : FileTree.Writable ⟨[], []⟩ (Path.ofString "settings.json") :=
    ⟨["settings.json"], by decide +kernel, by decide⟩
  obtain ⟨hback, _⟩ := load_save (show areMembers anySize givenEntries = true by decide +kernel)
    (show givenEntries.get? "custom" = none by rfl) hformat hwritable
    (show load ⟨[], []⟩ (.mapping givenEntries) none (some "typescript") = .ok _ by rfl)
  obtain ⟨tree', hsave, hload⟩ := hback (show areMembers isShort givenEntries = true by decide +kernel)
  exact ⟨_, tree', rfl, hsave, hload, rfl, rfl⟩

end Config

namespace Config

variable {set : String} {es fs cs : Entries} {c : Config} {fits : Int → Bool}

/-! ## 2. Custom entries -/

/-- Are the custom entries given as a mapping, if they are given at all? -/
def GivesCustom (es : Entries) : Prop :=
  ∀ v, es.get? "custom" = some v → ∃ given, v = .mapping given

/-- The entries that are given as custom entries. -/
theorem GivesCustom.exists_given (h : GivesCustom es) (hes : areMembers fits es = true) :
    ∃ given : Entries, areMembers fits given = true ∧
      (es.get? "custom").getD (.mapping []) = .mapping given := by
  cases hcustom : es.get? "custom" with
  | none => exact ⟨[], rfl, rfl⟩
  | some v =>
      obtain ⟨given, rfl⟩ := h v hcustom
      have hgiven : (Data.mapping given).isJson fits = true := isJson_of_lookup? hes hcustom
      exact ⟨given, hgiven, rfl⟩

/-- **A configuration that is read from members has members as custom entries**: those that are given
    as such and the entries that are no settings. -/
theorem exists_custom (hset : set ∈ templateSets) (hes : areMembers fits es = true)
    (hcustom : GivesCustom es) (h : ofEntries (mergedLayers set [] es) = .ok c) :
    ∃ cs : Entries, c.custom = .mapping cs ∧ areMembers fits cs = true := by
  obtain ⟨given, hgiven, heq⟩ := hcustom.exists_given hes
  obtain ⟨_, _, custom, _, _, hread, hc⟩ := ofEntries_eq_ok.mp h
  rw [readCustom_layer hset hes, readCustom_given heq] at hread
  refine ⟨given.update (es.besides fieldNames), ?_,
    areMembers_update hgiven (areMembers_besides fieldNames hes)⟩
  rw [hc]
  exact (Except.ok.inj hread).symm

/-- The settings with the custom entries written over them. -/
theorem entries_of_custom (h : c.custom = .mapping cs) : c.entries = .ok (c.ownEntries.update cs) := by
  unfold entries
  rw [h]
  rfl

/-- **Under a name stands the custom entry with the name, and the setting only if there is none.** -/
theorem get?_entries (hcs : areMembers fits cs = true) (name : String) :
    (c.ownEntries.update cs).get? name = (cs.get? name).or (c.ownEntries.get? name) := by
  have hlast : ofList cs = cs := by
    rw [ofList, update_of_new (areKeyed_of_areMembers hcs) fun _ _ => rfl, List.nil_append]
  rw [get?_update, hlast]

/-- A custom entry with the name of a setting has the value of the setting. -/
def Unmasked (c : Config) (cs : Entries) : Prop :=
  ∀ name ∈ settingNames, ∀ v, cs.get? name = some v → c.ownEntries.get? name = some v

/-- Exactly where nothing is masked every setting is written as it is. -/
theorem unmasked_iff (hcs : areMembers fits cs = true) : c.Unmasked cs ↔
    ∀ name ∈ settingNames, (c.ownEntries.update cs).get? name = c.ownEntries.get? name := by
  refine forall₂_congr fun name _ => ?_
  rw [get?_entries hcs]
  cases cs.get? name with
  | none => exact ⟨fun _ => rfl, fun _ v h => by cases h⟩
  | some v => exact ⟨fun h => (h v rfl).symm, fun h w hw => hw ▸ h.symm⟩

/-- **A plain setting that is read back has the value that was written.** -/
theorem get?_plain_resolved {c' : Config} (hfs : areKeyed fs = true)
    (h : resolve [] fs none = .ok c') {name : String} (hname : name ∈ plainNames) {v : Data}
    (hv : fs.get? name = some v) : c'.ownEntries.get? name = some v := by
  obtain ⟨set, hset, _, hread⟩ := resolve_eq_ok.mp h
  have hplain := plainSettings_ofEntries hset rfl hfs hread
  have hnames : plainNames = (c'.plainSettings set).map (·.1) := rfl
  rw [hnames] at hname
  obtain ⟨x, hx, rfl⟩ := List.mem_map.mp hname
  have hvalue : x.2.1 = v := by
    rw [hplain x hx, hv]
    rfl
  rw [← hvalue]
  simp only [plainSettings, List.mem_cons, List.not_mem_nil, or_false] at hx
  rcases hx with rfl | rfl | rfl | rfl | rfl | rfl <;> rfl

/-- Every plain setting is written, by itself or by a custom entry. -/
theorem exists_plain_entry (hcs : areMembers fits cs = true) {name : String} (hname : name ∈ plainNames) :
    ∃ v, (c.ownEntries.update cs).get? name = some v := by
  have hown : ∀ name ∈ plainNames, (c.ownEntries.get? name).isSome = true := by
    have hnames : plainNames = ["sub_module_name", "root_module_name", "template_dir",
      "template_encoding", "emit_empty_root_index", "atomic"] := rfl
    rw [hnames]
    simp only [List.forall_mem_cons]
    exact ⟨rfl, rfl, rfl, rfl, rfl, rfl, fun _ h => absurd h List.not_mem_nil⟩
  rw [get?_entries hcs]
  obtain ⟨v, hv⟩ := Option.isSome_iff_exists.mp (hown name hname)
  rw [hv]
  cases cs.get? name with
  | none => exact ⟨v, rfl⟩
  | some w => exact ⟨w, rfl⟩

/-! ## 3. Main result -/

/-- **Exactly a configuration whose custom entries mask nothing is written with its own settings.**
    Whatever the custom entries are called, they are kept apart in the configuration, but each setting
    is written with the value of the custom entry that has its name, if there is one. The configuration
    can be saved exactly if no integer in it is too long. The saved file of an unmasked configuration
    gives all settings back, if the custom entries can be read again; a plain setting of any file that
    can be read is the value that was written. -/
theorem load_save_custom {tree : FileTree} {asked : Option String} {file : String}
    (hes : areMembers anySize es = true) (hcustom : GivesCustom es)
    (hformat : ConfigFormat.ofPath? (Path.ofString file) = some .json)
    (hwritable : tree.Writable (Path.ofString file))
    (h : load tree (.mapping es) none asked = .ok c) :
    ∃ cs fs : Entries, c.custom = .mapping cs ∧ c.entries = .ok fs ∧
      (∀ name ∈ settingNames, fs.get? name = (cs.get? name).or (c.ownEntries.get? name)) ∧
      (c.Unmasked cs ↔ ∀ name ∈ settingNames, fs.get? name = c.ownEntries.get? name) ∧
      (areMembers isShort es = true → areMembers isShort fs = true) ∧
      (areMembers isShort fs = false → (save tree c file).2 = some (.fault .badValue)) ∧
      (areMembers isShort fs = true → ∃ tree', save tree c file = (tree', none) ∧
        (c.Unmasked cs → load tree' .null (some file) none =
          (readCustom fs).map fun custom => { c with custom }) ∧
        (c.Unmasked cs → GivesCustom cs → ∃ c', load tree' .null (some file) none = .ok c' ∧
          c'.ownEntries = c.ownEntries) ∧
        ∀ c', load tree' .null (some file) none = .ok c' → ∀ name ∈ plainNames,
          c'.ownEntries.get? name = (cs.get? name).or (c.ownEntries.get? name)) := by
  rw [load_overrides] at h
  obtain ⟨set, hset, _, hread⟩ := resolve_eq_ok.mp h
  obtain ⟨cs, hcs, hmembers⟩ := exists_custom hset hes hcustom hread
  have hentries := entries_of_custom hcs
  have hfs := areMembers_update (areMembers_ownEntries hset hes hread) hmembers
  refine ⟨cs, c.ownEntries.update cs, hcs, hentries, fun name _ => get?_entries hmembers name,
    unmasked_iff hmembers, fun hshort => ?_, fun hlong => save_long hentries hfs hlong hwritable,
    fun hshort => ?_⟩
  · obtain ⟨cs', hcs', hmembers'⟩ := exists_custom hset hshort hcustom hread
    obtain rfl := Data.mapping.inj (hcs.symm.trans hcs')
    exact areMembers_update (areMembers_ownEntries hset hshort hread) hmembers'
  obtain ⟨tree', hsave, hload⟩ := load_saved hentries hshort hformat hwritable
  have hagain : c.Unmasked cs → load tree' .null (some file) none =
      (readCustom (c.ownEntries.update cs)).map fun custom => { c with custom } := by
    intro hunmasked
    have hown := (unmasked_iff hmembers).mp hunmasked
    have hnamed : (c.ownEntries.update cs).get? "template_set" = some (.text set) := by
      rw [hown "template_set" (by decide), ← templateSet_ofEntries hread]
      rfl
    rw [hload, resolve_of_set hset hnamed, ofEntries_layer hset hes hread hfs hown]
  refine ⟨tree', hsave, hagain, fun hunmasked hgives => ?_, fun c' hc' name hname => ?_⟩
  · have hwritten : GivesCustom (c.ownEntries.update cs) := by
      intro v hv
      rw [get?_entries hmembers] at hv
      have hnone : c.ownEntries.get? "custom" = none := rfl
      rw [hnone, Option.or_none] at hv
      exact hgives v hv
    obtain ⟨given, _, hgiven⟩ := hwritten.exists_given hfs
    rw [hagain hunmasked, readCustom_given hgiven]
    exact ⟨_, rfl, rfl⟩
  · rw [hload] at hc'
    obtain ⟨v, hv⟩ := exists_plain_entry hmembers hname
    rw [get?_plain_resolved (areKeyed_of_areMembers hfs) hc' hname hv, ← hv, get?_entries hmembers]

/-- A custom entry with the name of a setting. -/
def maskingEntries : Entries :=
  ofFields [("custom", .mapping (ofFields [("atomic", .bool true)]))]

/-- The configuration is not atomic, its entries say that it is, and so does what is resolved from
    them. -/
theorem masked_atomic : ∃ c fs c', load ⟨[], []⟩ (.mapping maskingEntries) none none = .ok c ∧
    c.atomic = .bool false ∧ c.entries = .ok fs ∧ fs.get? "atomic" = some (.bool true) ∧
    resolve [] fs none = .ok c' ∧ c'.atomic = .bool true :=
  ⟨_, _, _, rfl, rfl, rfl, rfl, rfl, rfl⟩

/-- Custom entries that are named otherwise, or have the value of the setting. -/
def unmaskingEntries : Entries :=
  ofFields [("custom", .mapping (ofFields [("owner", .text "x"), ("atomic", .bool false)])),
    ("retries", .int 3)]

/-- The custom entries of the configuration. -/
def unmaskingCustom : Entries :=
  ofFields [("owner", .text "x"), ("atomic", .bool false), ("retries", .int 3)]

theorem load_save_custom_unmasking :
    load ⟨[], []⟩ (.mapping unmaskingEntries) none none =
        .ok { standard with custom := .mapping unmaskingCustom } ∧
      ∃ tree' c', save ⟨[], []⟩ { standard with custom := .mapping unmaskingCustom }
          "settings.json" = (tree', none) ∧
        load tree' .null (some "settings.json") none = .ok c' ∧
        c'.ownEntries = standard.ownEntries := by
  have hformat : ConfigFormat.ofPath? (Path.ofString "settings.json") = some .json := by
    decide +kernel
  have hwritable : FileTree.Writable ⟨[], []⟩ (Path.ofString "settings.json") :=
    ⟨["settings.json"], by decide +kernel, by decide⟩
  have hcustom : GivesCustom unmaskingEntries := by
    intro v hv
    cases hv
    exact ⟨_, rfl⟩
  have hload : load ⟨[], []⟩ (.mapping unmaskingEntries) none none =
      .ok { standard with custom := .mapping unmaskingCustom } := rfl
  obtain ⟨cs, fs, hcs, _, _, _, hshort, _, hsaved⟩ := load_save_custom
    (show areMembers anySize unmaskingEntries = true by decide +kernel) hcustom hformat hwritable hload
  obtain ⟨tree', hsave, _, hback, _⟩ :=
    hsaved (hshort (show areMembers isShort unmaskingEntries = true by decide +kernel))
  obtain rfl : unmaskingCustom = cs := Data.mapping.inj hcs
  have hunmasked : Unmasked { standard with custom := .mapping unmaskingCustom } unmaskingCustom := by
    have hnames : settingNames = ["template_set", "template_dir", "template_encoding", "templates",
      "naming", "sub_module_name", "root_module_name", "emit_empty_root_index", "atomic"] := rfl
    unfold Unmasked
    rw [hnames]
    simp only [List.forall_mem_cons]
    refine ⟨?_, ?_, ?_, ?_, ?_, ?_, ?_, ?_, ?_, fun _ h => absurd h List.not_mem_nil⟩ <;>
      intro v hv <;> cases hv
    rfl
  obtain ⟨c', hc', hown⟩ := hback hunmasked fun v hv => by cases hv
  exact ⟨hload, tree', c', hsave, hc', hown⟩

end Config

end DomainGen
