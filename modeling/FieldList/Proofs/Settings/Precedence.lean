import FieldList.Proofs.Settings.Merging
import Mathlib

/-!
# Which layer a setting comes from

A `Call` names a layer, and `resolved` says which text a sequence of calls gives for a setting:
that of the last single value for it, or else of the last file that defines it, or else the
default. `exists_load` says that the settings which are loaded have just these texts.

`exists_resolves` draws the consequences, all in the same way: calls that are rearranged or repeated
load the same settings because they resolve to the same texts.
-/

namespace FieldList.Settings

/-! ## Calls -/

inductive Call where
  | file (path : String)
  | optionalFile (path : String)
  | override (k : Key) (text : String)
  deriving DecidableEq, Repr

/-- The entries of the file at a path, if it is there and is a document. -/
def document? (view : Files.View) (path : String) : Option (List (String × Toml.Value)) := do
  let (_, content) ← find? view path
  Toml.read (← content.text?)

/-- A layer of a document that gives texts for the settings, if anything, or of an optional file
that is not there. -/
def FileLayer.Acceptable (view : Files.View) (layer : FileLayer) : Prop :=
  (∃ entries, document? view layer.path = some entries ∧ WellFormed entries) ∨
    (layer.required = false ∧ find? view layer.path = none)

namespace Call

def apply (l : Loader) : Call → Except SettingsError Loader
  | file path => .ok (l.withFile path)
  | optionalFile path => .ok (l.withOptionalFile path)
  | override k text => l.withOverride k.path (.ofText text)

def layer? : Call → Option FileLayer
  | file path => some ⟨path, true⟩
  | optionalFile path => some ⟨path, false⟩
  | override _ _ => none

/-- The single value that a call sets, and where. -/
def value? : Call → Option (KeyPath × Value)
  | override k text => some (⟨k.group.key, [.key k.name]⟩, .ofText text)
  | _ => none

/-- The text that a call sets for a setting over all files. -/
def overrideText? (k : Key) : Call → Option String
  | override k' text => if k = k' then some text else none
  | _ => none

/-- The text that the file of a call gives for a setting. -/
def fileText? (view : Files.View) (k : Key) (c : Call) : Option String :=
  c.layer?.bind fun layer => (document? view layer.path).bind (definedText? k)

def Acceptable (view : Files.View) : Call → Prop
  | file path => FileLayer.Acceptable view ⟨path, true⟩
  | optionalFile path => FileLayer.Acceptable view ⟨path, false⟩
  | override k text => k.Admits text

end Call

/-- The settings that are loaded after some calls. -/
def load (view : Files.View) (calls : List Call) : Except SettingsError Settings := do
  (← calls.foldlM Call.apply Loader.start).build view

/-- The text that the calls give for a setting. -/
def resolved (view : Files.View) (calls : List Call) (k : Key) : String :=
  ((calls.filterMap (Call.overrideText? k)).getLast?.or
    (calls.filterMap (Call.fileText? view k)).getLast?).getD k.defaultText

/-- The calls name the same files in the same order, and set the same single values for each setting
in the same order. -/
def SameLayers (calls other : List Call) : Prop :=
  other.filterMap Call.layer? = calls.filterMap Call.layer? ∧
    ∀ k, other.filterMap (Call.overrideText? k) = calls.filterMap (Call.overrideText? k)

/-- What the loaded settings are, and which changes to the calls leave them alone. -/
structure Resolves (view : Files.View) (calls : List Call) (s : Settings) : Prop where
  loads : load view calls = .ok s
  text : ∀ k, s.text k = resolved view calls k
  rearranged : ∀ other, SameLayers calls other → load view other = .ok s
  /-- A call that gives nothing for a setting does not change it. -/
  kept : ∀ pre c post k, calls = pre ++ c :: post → c.overrideText? k = none →
    c.fileText? view k = none → ∃ s', load view (pre ++ post) = .ok s' ∧ s'.text k = s.text k
  repeated : ∀ pre mid post, calls = pre ++ mid ++ post →
    load view (pre ++ mid ++ mid ++ post) = .ok s

variable {view : Files.View} {calls other : List Call} {root : Value} {k : Key}

/-! ## Reading settings off what is held -/

lemma exists_groupValue {text : String} (h : root.held? k = some text) :
    ∃ v, groupValue root k.group = .ok v ∧ v.textUnder? k.name = some text := by
  obtain ⟨v, hlookup, htext⟩ := Option.bind_eq_some_iff.mp h
  exact ⟨v, by rw [groupValue, hlookup], htext⟩

lemma textUnder?_of_groupValue {group : Group} {v : Value} {text : String}
    (hv : groupValue root group = .ok v) (h : root.held? k = some text) (hgroup : k.group = group) :
    v.textUnder? k.name = some text := by
  subst hgroup
  obtain ⟨v', hv', htext⟩ := exists_groupValue h
  obtain rfl : v = v' := Except.ok.inj (hv.symm.trans hv')
  exact htext

lemma exists_member {v : Value} {name text : String} (h : v.textUnder? name = some text)
    (group : Group) (place : Nat) :
    ∃ key origin, member group v place name = .ok (key, .scalar origin (.text text)) := by
  obtain ⟨inner, hlookup, htext⟩ := Option.bind_eq_some_iff.mp h
  obtain ⟨origin, rfl⟩ : ∃ origin, inner = .scalar origin (.text text) := by
    unfold Value.text? at htext
    split at htext
    · next origin s => exact ⟨origin, by rw [Option.some.inj htext]⟩
    · cases htext
  cases v with
  | table _ entries =>
    refine ⟨group.key ++ "." ++ name, origin, ?_⟩
    have hentry : entries.lookup name = some (.scalar origin (.text text)) := hlookup
    rw [member, hentry]
  | scalar _ _ => cases hlookup
  | list _ _ => cases hlookup

lemma textMember_eq {v : Value} {name text : String} (h : v.textUnder? name = some text)
    (group : Group) (place : Nat) : textMember group v place name = .ok text := by
  obtain ⟨key, origin, hmember⟩ := exists_member h group place
  rw [textMember, hmember]
  rfl

lemma exists_orientationOf {text : String} (h : Key.orientation.Admits text) :
    ∃ orientation : Docx.Orientation, orientationOf text = .ok orientation ∧
      orientation.keyword = text := by
  rcases h rfl with rfl | rfl
  · exact ⟨.portrait, rfl, rfl⟩
  · exact ⟨.landscape, rfl, rfl⟩

/-- With a text held for every setting, the settings have these texts. -/
lemma exists_decode {f : Key → String} (h : ∀ k, root.held? k = some (f k))
    (horientation : Key.orientation.Admits (f .orientation)) :
    ∃ s, decode root = .ok s ∧ ∀ k, s.text k = f k := by
  obtain ⟨document, hdocument, htext⟩ : ∃ v, groupValue root .document = .ok v ∧
      v.textUnder? "title" = some (f .title) := exists_groupValue (h .title)
  obtain ⟨exporting, hexporting, hexportText⟩ : ∃ v, groupValue root .exporting = .ok v ∧
      v.textUnder? "label_prefix" = some (f .label) := exists_groupValue (h .label)
  have htitle : textMember .document document 0 "title" = .ok (f .title) :=
    textMember_eq htext .document 0
  have hfileName : textMember .document document 1 "file_name" = .ok (f .fileName) :=
    textMember_eq (textUnder?_of_groupValue hdocument (h .fileName) rfl) .document 1
  have hlabel : textMember .exporting exporting 0 "label_prefix" = .ok (f .label) :=
    textMember_eq hexportText .exporting 0
  have hformat : textMember .exporting exporting 1 "format" = .ok (f .format) :=
    textMember_eq (textUnder?_of_groupValue hexporting (h .format) rfl) .exporting 1
  obtain ⟨key, origin, hmember⟩ : ∃ key origin, member .document document 2 "orientation" =
      .ok (key, .scalar origin (.text (f .orientation))) :=
    exists_member (textUnder?_of_groupValue hdocument (h .orientation) rfl) .document 2
  obtain ⟨orientation, hvalue, hkeyword⟩ := exists_orientationOf horientation
  refine ⟨⟨f .title, f .fileName, orientation, f .label, f .format⟩, ?_, ?_⟩
  · simp [decode, hdocument, hexporting, htitle, hfileName, hmember, decodeOrientation, hvalue,
      hlabel, hformat, bind, Except.bind, pure, Except.pure]
  · intro k
    cases k <;> first | rfl | exact hkeyword

/-! ## Layers -/

lemma held?_defaults (k : Key) : defaults.held? k = some k.defaultText := by
  cases k <;> rfl

lemma document?_eq_some_iff {path : String} {entries : List (String × Toml.Value)} :
    document? view path = some entries ↔ ∃ found content text,
      find? view path = some (found, content) ∧ content.text? = some text ∧
        Toml.read text = some entries := by
  simp [document?, Option.bind_eq_some_iff]

/-- Laying an acceptable file over a value changes what is held to what the file gives. -/
lemma exists_applyFile {layer : FileLayer} (h : layer.Acceptable view) (root : Value) :
    ∃ after, applyFile view root layer = .ok after ∧ ∀ k, after.held? k =
      ((document? view layer.path).bind (definedText? k)).or (root.held? k) := by
  rcases h with ⟨entries, hdocument, hentries⟩ | ⟨hrequired, hmissing⟩
  · obtain ⟨path, content, text, hfind, htext, hread⟩ := document?_eq_some_iff.mp hdocument
    refine ⟨root.overlayFile (Value.ofTomlEntries (some (shownPath path)) entries), ?_, fun k => ?_⟩
    · simp only [applyFile, hfind, htext, hread]
    · rw [hdocument]
      exact Value.held?_overlayFile hentries _ root k
  · have hnone : document? view layer.path = none := by simp [document?, hmissing]
    exact ⟨root, by simp [applyFile, hmissing, hrequired], fun k => by simp [hnone]⟩

lemma exists_applyFiles {layers : List FileLayer} (h : ∀ layer ∈ layers, layer.Acceptable view)
    (root : Value) : ∃ after, layers.foldlM (applyFile view) root = .ok after ∧
      ∀ k, after.held? k = (layers.filterMap fun layer =>
        (document? view layer.path).bind (definedText? k)).getLast?.or (root.held? k) := by
  induction layers generalizing root with
  | nil => exact ⟨root, rfl, fun k => rfl⟩
  | cons layer rest ih =>
    obtain ⟨next, hnext, hheld⟩ := exists_applyFile (h layer List.mem_cons_self) root
    obtain ⟨after, hafter, hrest⟩ := ih (fun l hl => h l (List.mem_cons_of_mem layer hl)) next
    refine ⟨after, ?_, fun k => ?_⟩
    · rw [List.foldlM_cons, hnext]
      exact hafter
    · rw [hrest, hheld, getLast?_filterMap_cons, Option.or_assoc]

lemma held?_overlayValues (calls : List Call) (root : Value) (k : Key) :
    ((calls.filterMap Call.value?).foldl
        (fun root (path, v) => root.overlayAt path v) root).held? k =
      (calls.filterMap (Call.overrideText? k)).getLast?.or (root.held? k) := by
  rw [List.foldl_filterMap]
  refine get_foldl_eq (Value.held? · k) (fun c _ root => ?_) root
  cases c with
  | file path => rfl
  | optionalFile path => rfl
  | override k' text => exact Value.held?_overlayAt root k' text k

/-! ## Loading -/

/-- Calls add their files and their single values to two lists, which do not depend on each
other. -/
lemma foldlM_apply (calls : List Call) (l : Loader) :
    calls.foldlM Call.apply l = .ok ⟨l.files ++ calls.filterMap Call.layer?,
      l.overrides ++ calls.filterMap Call.value?⟩ := by
  induction calls generalizing l with
  | nil => simp [pure, Except.pure]
  | cons c rest ih =>
    cases c with
    | file path =>
      rw [List.foldlM_cons]
      exact (ih _).trans (by simp [List.filterMap_cons, Call.layer?, Call.value?, Loader.withFile])
    | optionalFile path =>
      rw [List.foldlM_cons]
      exact (ih _).trans
        (by simp [List.filterMap_cons, Call.layer?, Call.value?, Loader.withOptionalFile])
    | override k text =>
      have happly : Call.apply l (.override k text) =
          .ok (l.withValue ⟨k.group.key, [.key k.name]⟩ (.ofText text)) := by
        rw [Call.apply, Loader.withOverride, k.parse_path]
      rw [List.foldlM_cons, happly]
      exact (ih _).trans (by simp [List.filterMap_cons, Call.layer?, Call.value?, Loader.withValue])

lemma Call.acceptable_iff {c : Call} : c.Acceptable view ↔
    (∀ layer, c.layer? = some layer → layer.Acceptable view) ∧
      ∀ k text, c.overrideText? k = some text → k.Admits text := by
  cases c <;> simp [Acceptable, layer?, overrideText?]

lemma admits_defaultText (k : Key) : k.Admits k.defaultText := by
  rintro rfl
  exact Or.inl rfl

lemma FileLayer.Acceptable.admits {layer : FileLayer} {text : String} (h : layer.Acceptable view)
    (htext : (document? view layer.path).bind (definedText? k) = some text) : k.Admits text := by
  obtain ⟨entries, hentries, hdefined⟩ := Option.bind_eq_some_iff.mp htext
  rcases h with ⟨entries', hdocument, hwell⟩ | ⟨-, hmissing⟩
  · obtain rfl : entries = entries' := Option.some.inj (hentries.symm.trans hdocument)
    exact hwell.admits hdefined
  · simp [document?, hmissing] at hentries

lemma admits_resolved (h : ∀ c ∈ calls, c.Acceptable view) (k : Key) :
    k.Admits (resolved view calls k) := by
  unfold resolved
  cases hoverride : (calls.filterMap (Call.overrideText? k)).getLast? with
  | some text =>
    obtain ⟨c, hc, htext⟩ := exists_of_getLast?_filterMap hoverride
    exact (Call.acceptable_iff.mp (h c hc)).2 k text htext
  | none =>
    cases hfile : (calls.filterMap (Call.fileText? view k)).getLast? with
    | some text =>
      obtain ⟨c, hc, htext⟩ := exists_of_getLast?_filterMap hfile
      obtain ⟨layer, hlayer, hdefined⟩ := Option.bind_eq_some_iff.mp htext
      exact ((Call.acceptable_iff.mp (h c hc)).1 layer hlayer).admits hdefined
    | none => exact admits_defaultText k

/-- Acceptable calls load settings with the resolved texts. -/
lemma exists_load (h : ∀ c ∈ calls, c.Acceptable view) :
    ∃ s, load view calls = .ok s ∧ ∀ k, s.text k = resolved view calls k := by
  have hlayers : ∀ layer ∈ calls.filterMap Call.layer?, layer.Acceptable view := by
    intro layer hlayer
    obtain ⟨c, hc, hgives⟩ := List.mem_filterMap.mp hlayer
    exact (Call.acceptable_iff.mp (h c hc)).1 layer hgives
  obtain ⟨files, hfiles, hheld⟩ := exists_applyFiles hlayers defaults
  have hresolved : ∀ k, ((calls.filterMap Call.value?).foldl
      (fun root (path, v) => root.overlayAt path v) files).held? k =
        some (resolved view calls k) := by
    intro k
    rw [held?_overlayValues, hheld, held?_defaults, List.filterMap_filterMap, ← Option.or_assoc,
      Option.or_some]
    rfl
  obtain ⟨s, hdecode, htext⟩ := exists_decode hresolved (admits_resolved h .orientation)
  have hbuild : (Loader.mk (calls.filterMap Call.layer?) (calls.filterMap Call.value?)).build view =
      .ok s := by
    rw [Loader.build, Loader.merged, hfiles]
    exact hdecode
  refine ⟨s, ?_, htext⟩
  rw [load, foldlM_apply]
  exact hbuild

/-! ## Precedence -/

lemma eq_of_text {s t : Settings} (h : ∀ k, s.text k = t.text k) : s = t := by
  obtain ⟨title, fileName, orientation, label, format⟩ := s
  obtain ⟨title', fileName', orientation', label', format'⟩ := t
  obtain rfl : title = title' := h .title
  obtain rfl : fileName = fileName' := h .fileName
  obtain rfl : label = label' := h .label
  obtain rfl : format = format' := h .format
  have hkeyword : orientation.keyword = orientation'.keyword := h .orientation
  cases orientation <;> cases orientation' <;> first | rfl | exact absurd hkeyword (by decide)

lemma load_eq_of_resolved_eq {s : Settings} (htext : ∀ k, s.text k = resolved view calls k)
    (hother : ∀ c ∈ other, c.Acceptable view)
    (hresolved : ∀ k, resolved view other k = resolved view calls k) :
    load view other = .ok s := by
  obtain ⟨s', hload, htext'⟩ := exists_load hother
  have hs : s' = s := eq_of_text fun k => (htext' k).trans ((hresolved k).trans (htext k).symm)
  rw [hload, hs]

lemma SameLayers.acceptable (hsame : SameLayers calls other)
    (h : ∀ c ∈ calls, c.Acceptable view) : ∀ c ∈ other, c.Acceptable view := by
  intro c hc
  refine Call.acceptable_iff.mpr ⟨fun layer hlayer => ?_, fun k text htext => ?_⟩
  · have hmem : layer ∈ calls.filterMap Call.layer? :=
      hsame.1 ▸ List.mem_filterMap.mpr ⟨c, hc, hlayer⟩
    obtain ⟨c', hc', hlayer'⟩ := List.mem_filterMap.mp hmem
    exact (Call.acceptable_iff.mp (h c' hc')).1 layer hlayer'
  · have hmem : text ∈ calls.filterMap (Call.overrideText? k) :=
      hsame.2 k ▸ List.mem_filterMap.mpr ⟨c, hc, htext⟩
    obtain ⟨c', hc', htext'⟩ := List.mem_filterMap.mp hmem
    exact (Call.acceptable_iff.mp (h c' hc')).2 k text htext'

lemma SameLayers.resolved_eq (hsame : SameLayers calls other) (k : Key) :
    resolved view other k = resolved view calls k := by
  have hfiles : ∀ l : List Call, l.filterMap (Call.fileText? view k) =
      (l.filterMap Call.layer?).filterMap fun layer =>
        (document? view layer.path).bind (definedText? k) :=
    fun l => List.filterMap_filterMap.symm
  rw [resolved, resolved, hsame.2, hfiles, hfiles, hsame.1]

lemma resolved_without {pre post : List Call} {c : Call} (hoverride : c.overrideText? k = none)
    (hfile : c.fileText? view k = none) :
    resolved view (pre ++ post) k = resolved view (pre ++ c :: post) k := by
  simp [resolved, List.filterMap_append, hoverride, hfile]

lemma resolved_repeated (pre mid post : List Call) :
    resolved view (pre ++ mid ++ mid ++ post) k = resolved view (pre ++ mid ++ post) k := by
  have hlast : ∀ give : Call → Option String,
      ((pre ++ mid ++ mid ++ post).filterMap give).getLast? =
        ((pre ++ mid ++ post).filterMap give).getLast? := by
    intro give
    simp only [List.filterMap_append, List.getLast?_append]
    cases (mid.filterMap give).getLast? <;> simp
  rw [resolved, resolved, hlast, hlast]

/-- **Every setting is resolved on its own.** The last single value for it counts, or else the last
file that defines it, or else the default, wherever the calls stand that name other layers. -/
theorem exists_resolves (h : ∀ c ∈ calls, c.Acceptable view) : ∃ s, Resolves view calls s := by
  obtain ⟨s, hload, htext⟩ := exists_load h
  refine ⟨s, hload, htext, ?_, ?_, ?_⟩
  · intro other hsame
    exact load_eq_of_resolved_eq htext (hsame.acceptable h) hsame.resolved_eq
  · intro pre c post k hcalls hoverride hfile
    subst hcalls
    have hrest : ∀ c' ∈ pre ++ post, c'.Acceptable view := by
      intro c' hc'
      apply h
      rcases List.mem_append.mp hc' with hpre | hpost
      · exact List.mem_append_left _ hpre
      · exact List.mem_append_right _ (List.mem_cons_of_mem c hpost)
    obtain ⟨s', hload', htext'⟩ := exists_load hrest
    exact ⟨s', hload', by rw [htext', htext, resolved_without hoverride hfile]⟩
  · intro pre mid post hcalls
    subst hcalls
    have hrepeated : ∀ c ∈ pre ++ mid ++ mid ++ post, c.Acceptable view := by
      intro c hc
      apply h
      simp only [List.mem_append] at hc ⊢
      tauto
    exact load_eq_of_resolved_eq htext hrepeated fun k => resolved_repeated pre mid post

/-- A directory in which the only file has this text. -/
def oneFile (text : String) : Files.View := fun path =>
  if path = "settings.toml" then .ok (.file (.ofText text)) else .error .notFound

/-- The file is found without its extension, too. -/
lemma document?_oneFile (text : String) : document? (oneFile text) "settings" = Toml.read text := by
  have hshort : fileAt? (oneFile text) "settings" = none := by simp [fileAt?, oneFile]
  have hextended : withExtension "settings" = some "settings.toml" := by decide
  have hlong : fileAt? (oneFile text) "settings.toml" = some (.ofText text) := by
    simp [fileAt?, oneFile]
  simp [document?, find?, hshort, hextended, hlong, Content.text?_ofText]

lemma find?_oneFile_missing (text : String) : find? (oneFile text) "missing.toml" = none := by
  have hextended : withExtension "missing.toml" = some "missing.toml.toml" := by decide
  simp [find?, fileAt?, oneFile, hextended]

def landscapeFile : String := "[document]\ntitle = \"A\"\norientation = \"landscape\""

def landscapeEntries : List (String × Toml.Value) :=
  [("document", .table [("title", .string "A"), ("orientation", .string "landscape")])]

lemma read_landscapeFile : Toml.read landscapeFile = some landscapeEntries := by
  cbv

lemma wellFormed_landscapeEntries : WellFormed landscapeEntries := by
  simp only [WellFormed, landscapeEntries, List.forall_mem_singleton]
  refine .group .title _ ?_
  simp only [List.forall_mem_cons]
  exact ⟨.setting .title "A" rfl nofun, .setting .orientation "landscape" rfl fun _ => Or.inr rfl,
    nofun⟩

def mixedCalls : List Call :=
  [.override .title "B", .file "settings", .optionalFile "missing.toml", .override .label "No. "]

/-- The settings that the calls come to. Of those in the file, only the orientation counts. -/
def mixedSettings : Settings where
  title := "B"
  fileName := "FieldList.docx"
  orientation := .landscape
  label := "No. "
  format := "docx"

lemma resolved_mixedCalls (k : Key) :
    resolved (oneFile landscapeFile) mixedCalls k = mixedSettings.text k := by
  have hdocument := (document?_oneFile landscapeFile).trans read_landscapeFile
  have hmissing : document? (oneFile landscapeFile) "missing.toml" = none := by
    simp [document?, find?_oneFile_missing]
  have hfiles : mixedCalls.filterMap (Call.fileText? (oneFile landscapeFile) k) =
      (definedText? k landscapeEntries).toList := by
    simp only [mixedCalls, List.filterMap_cons, List.filterMap_nil, Call.fileText?, Call.layer?,
      Option.bind_some, Option.bind_none, hdocument, hmissing]
    cases definedText? k landscapeEntries <;> rfl
  rw [resolved, hfiles]
  cases k <;> decide

/-- The file is found with its extension, the other is missing, and the title is set before both. -/
theorem exists_resolves_mixed : (∀ c ∈ mixedCalls, c.Acceptable (oneFile landscapeFile)) ∧
    Resolves (oneFile landscapeFile) mixedCalls mixedSettings := by
  have hdocument := (document?_oneFile landscapeFile).trans read_landscapeFile
  have hacceptable : ∀ c ∈ mixedCalls, c.Acceptable (oneFile landscapeFile) := by
    simp only [mixedCalls, List.forall_mem_cons]
    exact ⟨nofun, Or.inl ⟨_, hdocument, wellFormed_landscapeEntries⟩,
      Or.inr ⟨rfl, find?_oneFile_missing _⟩, nofun, nofun⟩
  obtain ⟨s, hs⟩ := exists_resolves hacceptable
  obtain rfl : s = mixedSettings :=
    eq_of_text fun k => (hs.text k).trans (resolved_mixedCalls k)
  exact ⟨hacceptable, hs⟩

end FieldList.Settings
