import FieldList.Proofs.Settings.Precedence

/-!
# Files that are named

A file is named as a layer of the settings, required or optional. `Naming` says what comes of it in
each case, whatever other layers stand before and after: a document counts in the same way for both,
a malformed text makes both fail, and where no text is found the path is passed over if it is
optional and an error if it is required.

`HonouredOrReported` is what one expects of a named file: it counts or is reported, and one that is
absent has no effect. This asks for more. A file of the longer name is found in place of one that
is absent, and an optional file that is no text is passed over without a word.
`honouredOrReported_iff_foundAsNamed` says that these two are all that stands in the way.

A layer takes part in a build through `applyFile` only, so every case is settled there and carried
over to whole builds by `buildWith_skip`, `buildWith_fail` and `buildWith_congr`.
-/

namespace FieldList.Settings

/-! ## Layers before and after -/

/-- A layer that is added to a loader, under any key and with any value. -/
inductive Addition where
  | file (path : String)
  | optionalFile (path : String)
  | value (key : String) (v : Value)

namespace Loader

def add (l : Loader) : Addition → Except SettingsError Loader
  | .file path => .ok (l.withFile path)
  | .optionalFile path => .ok (l.withOptionalFile path)
  | .value key v => l.withOverride key v

/-- The settings that are built after further layers were added. -/
def buildWith (l : Loader) (view : Files.View) (later : List Addition) :
    Except SettingsError Settings := do
  (← later.foldlM add l).build view

end Loader

/-! ## What is expected and what comes of it -/

/-- The text of the file that is found for a path. -/
def textFor? (view : Files.View) (path : String) : Option String :=
  (find? view path).bind (·.2.text?)

/-- The entries of a content, if it is a document. -/
def entries? (content : Content) : Option (List (String × Toml.Value)) :=
  content.text?.bind Toml.read

/-- A build fails if it names the path as a required file, and does not notice an optional one. -/
def PassesOver (view : Files.View) (path : String) : Prop :=
  ∀ (l : Loader) (later : List Addition),
    (l.withOptionalFile path).buildWith view later = l.buildWith view later ∧
      ∃ e, (l.withFile path).buildWith view later = .error e

/-- Every build that names the path fails. -/
def Refuses (view : Files.View) (path : String) : Prop :=
  ∀ (l : Loader) (later : List Addition),
    (∃ e, (l.withFile path).buildWith view later = .error e) ∧
      ∃ e, (l.withOptionalFile path).buildWith view later = .error e

/-- A file counts or is reported, and where there is none the path has no effect. -/
structure HonouredOrReported (view : Files.View) (path : String) : Prop where
  absent : fileAt? view path = none → PassesOver view path
  unreadable : ∀ content, fileAt? view path = some content → entries? content = none →
    Refuses view path

/-- What comes of naming a path, by the text that is found for it. -/
structure Naming (view : Files.View) (path : String) : Prop where
  noText : textFor? view path = none → PassesOver view path
  malformed : ∀ text, textFor? view path = some text → Toml.read text = none → Refuses view path
  document : ∀ text entries, textFor? view path = some text → Toml.read text = some entries →
    ∀ (l : Loader) (later : List Addition),
      (l.withFile path).buildWith view later = (l.withOptionalFile path).buildWith view later

/-- The path is that of a text, or else no text is found under its longer name either. -/
def FoundAsNamed (view : Files.View) (path : String) : Prop :=
  match fileAt? view path with
  | some content => content.text? ≠ none
  | none => textFor? view path = none

variable {view : Files.View} {path : String} {l : Loader} {later : List Addition}
  {layer layer' : FileLayer}

/-! ## One layer of a build -/

namespace Loader

def withLayer (l : Loader) (layer : FileLayer) : Loader :=
  { l with files := l.files ++ [layer] }

/-- Later additions either fail, on any loader, or put their layers after those that it has. -/
lemma foldlM_add (later : List Addition) :
    (∃ e, ∀ l : Loader, later.foldlM add l = .error e) ∨ ∃ files overrides, ∀ l : Loader,
      later.foldlM add l = .ok ⟨l.files ++ files, l.overrides ++ overrides⟩ := by
  induction later with
  | nil => exact .inr ⟨[], [], fun l => by simp [pure, Except.pure]⟩
  | cons a rest ih =>
    have hstep : (∃ e, ∀ l : Loader, l.add a = .error e) ∨ ∃ files overrides, ∀ l : Loader,
        l.add a = .ok ⟨l.files ++ files, l.overrides ++ overrides⟩ := by
      cases a with
      | file path => exact .inr ⟨[⟨path, true⟩], [], fun l => by simp [add, withFile]⟩
      | optionalFile path =>
        exact .inr ⟨[⟨path, false⟩], [], fun l => by simp [add, withOptionalFile]⟩
      | value key v =>
        cases hkey : KeyPath.parse key with
        | ok place =>
          exact .inr ⟨[], [(place, v)], fun l => by simp [add, withOverride, hkey, withValue]⟩
        | error e => exact .inl ⟨.key e, fun l => by simp [add, withOverride, hkey]⟩
    rcases hstep with ⟨e, he⟩ | ⟨files, overrides, hadd⟩
    · refine .inl ⟨e, fun l => ?_⟩
      rw [List.foldlM_cons, he]
      rfl
    · have hcons : ∀ l : Loader, (a :: rest).foldlM add l =
          rest.foldlM add ⟨l.files ++ files, l.overrides ++ overrides⟩ := by
        intro l
        rw [List.foldlM_cons, hadd]
        rfl
      rcases ih with ⟨e, he⟩ | ⟨files', overrides', hrest⟩
      · exact .inl ⟨e, fun l => by rw [hcons, he]⟩
      · refine .inr ⟨files ++ files', overrides ++ overrides', fun l => ?_⟩
        rw [hcons, hrest, List.append_assoc, List.append_assoc]

lemma buildWith_nil (l : Loader) (view : Files.View) : l.buildWith view [] = l.build view := rfl

/-- A build lays its files over the defaults in order. -/
lemma build_append (files later : List FileLayer) (overrides : List (KeyPath × Value))
    (view : Files.View) :
    (Loader.mk (files ++ later) overrides).build view = (do
      let root ← files.foldlM (applyFile view) defaults
      let root ← later.foldlM (applyFile view) root
      decode (overrides.foldl (fun root (place, v) => root.overlayAt place v) root)) := by
  simp [build, merged, List.foldlM_append]

/-- One layer among the others is laid over what the files before it give. -/
lemma build_layer (files later : List FileLayer) (overrides : List (KeyPath × Value))
    (view : Files.View) (layer : FileLayer) :
    (Loader.mk (files ++ [layer] ++ later) overrides).build view = (do
      let root ← files.foldlM (applyFile view) defaults
      let root ← applyFile view root layer
      let root ← later.foldlM (applyFile view) root
      decode (overrides.foldl (fun root (place, v) => root.overlayAt place v) root)) := by
  rw [build_append, List.foldlM_append]
  simp

/-- Layers that do the same can stand for each other. -/
lemma buildWith_congr (h : ∀ root, applyFile view root layer = applyFile view root layer') :
    (l.withLayer layer).buildWith view later = (l.withLayer layer').buildWith view later := by
  rcases foldlM_add later with ⟨e, he⟩ | ⟨files, overrides, hlater⟩
  · rw [buildWith, buildWith, he, he]
  · rw [buildWith, buildWith, hlater, hlater]
    change (Loader.mk (l.files ++ [layer] ++ files) (l.overrides ++ overrides)).build view =
      (Loader.mk (l.files ++ [layer'] ++ files) (l.overrides ++ overrides)).build view
    simp only [build_layer, h]

/-- A layer that changes no value can be left out. -/
lemma buildWith_skip (h : ∀ root, applyFile view root layer = .ok root) :
    (l.withLayer layer).buildWith view later = l.buildWith view later := by
  rcases foldlM_add later with ⟨e, he⟩ | ⟨files, overrides, hlater⟩
  · rw [buildWith, buildWith, he, he]
  · rw [buildWith, buildWith, hlater, hlater]
    change (Loader.mk (l.files ++ [layer] ++ files) (l.overrides ++ overrides)).build view =
      (Loader.mk (l.files ++ files) (l.overrides ++ overrides)).build view
    rw [build_layer, build_append]
    simp only [h]
    rfl

/-- A layer that fails on every value makes the build fail, if no layer before it does. -/
lemma buildWith_fail {e : SettingsError} (h : ∀ root, applyFile view root layer = .error e) :
    ∃ e, (l.withLayer layer).buildWith view later = .error e := by
  rcases foldlM_add later with ⟨e', he⟩ | ⟨files, overrides, hlater⟩
  · refine ⟨e', ?_⟩
    rw [buildWith, he]
    rfl
  · rw [buildWith, hlater]
    change ∃ e, (Loader.mk (l.files ++ [layer] ++ files) (l.overrides ++ overrides)).build view =
      .error e
    rw [build_layer]
    simp only [h]
    cases l.files.foldlM (applyFile view) defaults with
    | error e' => exact ⟨e', rfl⟩
    | ok root => exact ⟨e, rfl⟩

end Loader

/-! ## Laying one file over a value -/

lemma textFor?_eq_some_iff {text : String} : textFor? view path = some text ↔
    ∃ found content, find? view path = some (found, content) ∧ content.text? = some text := by
  simp [textFor?, Option.bind_eq_some_iff]

lemma applyFile_optional (h : textFor? view path = none) (root : Value) :
    applyFile view root ⟨path, false⟩ = .ok root := by
  unfold applyFile
  cases hfind : find? view path with
  | none => rfl
  | some found =>
    have htext : found.2.text? = none := by simpa [textFor?, hfind] using h
    simp [htext]

lemma exists_applyFile_required (h : textFor? view path = none) :
    ∃ e, ∀ root, applyFile view root ⟨path, true⟩ = .error e := by
  cases hfind : find? view path with
  | none => exact ⟨.fileNotFound path, fun root => by simp [applyFile, hfind]⟩
  | some found =>
    have htext : found.2.text? = none := by simpa [textFor?, hfind] using h
    exact ⟨.notUtf8, fun root => by simp [applyFile, hfind, htext]⟩

lemma exists_applyFile_malformed {text : String} (h : textFor? view path = some text)
    (hread : Toml.read text = none) (required : Bool) :
    ∃ e, ∀ root, applyFile view root ⟨path, required⟩ = .error e := by
  obtain ⟨found, content, hfind, htext⟩ := textFor?_eq_some_iff.mp h
  exact ⟨.malformed (shownPath found), fun root => by simp [applyFile, hfind, htext, hread]⟩

lemma applyFile_text {text : String} (h : textFor? view path = some text) (root : Value) :
    applyFile view root ⟨path, true⟩ = applyFile view root ⟨path, false⟩ := by
  obtain ⟨found, content, hfind, htext⟩ := textFor?_eq_some_iff.mp h
  simp [applyFile, hfind, htext]

/-! ## All cases -/

lemma passesOver_of_textFor? (h : textFor? view path = none) : PassesOver view path := by
  intro l later
  obtain ⟨e, he⟩ := exists_applyFile_required h
  exact ⟨Loader.buildWith_skip (applyFile_optional h), Loader.buildWith_fail he⟩

lemma refuses_of_malformed {text : String} (h : textFor? view path = some text)
    (hread : Toml.read text = none) : Refuses view path := by
  intro l later
  obtain ⟨e, he⟩ := exists_applyFile_malformed h hread true
  obtain ⟨e', he'⟩ := exists_applyFile_malformed h hread false
  exact ⟨Loader.buildWith_fail he, Loader.buildWith_fail he'⟩

lemma naming (view : Files.View) (path : String) : Naming view path where
  noText := passesOver_of_textFor?
  malformed _ := refuses_of_malformed
  document _ _ h _ _ _ := Loader.buildWith_congr (applyFile_text h)

/-! ## Builds that succeed -/

/-- A single value for every setting. -/
def settled : List Call :=
  [.title, .fileName, .orientation, .label, .format].map fun k => .override k k.defaultText

lemma getLast?_settled (k : Key) :
    (settled.filterMap (Call.overrideText? k)).getLast? = some k.defaultText := by
  cases k <;> rfl

/-- With a single value for every setting, a build succeeds as soon as all its files do. -/
lemma exists_build_settled {files : List FileLayer} {root : Value}
    (h : files.foldlM (applyFile view) defaults = .ok root) :
    ∃ s, (Loader.mk files (settled.filterMap Call.value?)).build view = .ok s := by
  have hheld : ∀ k, ((settled.filterMap Call.value?).foldl
      (fun root (place, v) => root.overlayAt place v) root).held? k = some k.defaultText := by
    intro k
    rw [held?_overlayValues, getLast?_settled, Option.some_or]
  obtain ⟨s, hs, -⟩ := exists_decode hheld (admits_defaultText .orientation)
  refine ⟨s, ?_⟩
  rw [Loader.build, Loader.merged, h]
  exact hs

/-- No files are laid over the defaults, so the settled values are met. -/
lemma exists_build_settled_nil (view : Files.View) :
    ∃ s, (Loader.mk [] (settled.filterMap Call.value?)).build view = .ok s :=
  exists_build_settled rfl

/-! ## Where the expectation holds -/

lemma find?_of_fileAt? {content : Content} (h : fileAt? view path = some content) :
    find? view path = some (path, content) := by
  rw [find?, h]

lemma textFor?_of_fileAt? {content : Content} (h : fileAt? view path = some content) :
    textFor? view path = content.text? := by
  rw [textFor?, find?_of_fileAt? h]
  rfl

/-- A path cannot be passed over when a text is found for it. -/
lemma PassesOver.textFor? (h : PassesOver view path) : textFor? view path = none := by
  by_contra hne
  obtain ⟨text, htext⟩ := Option.ne_none_iff_exists'.mp hne
  obtain ⟨hoptional, e, hrequired⟩ := h ⟨[], settled.filterMap Call.value?⟩ []
  cases hread : Toml.read text with
  | none =>
    obtain ⟨-, e, hrefused⟩ :=
      refuses_of_malformed htext hread ⟨[], settled.filterMap Call.value?⟩ []
    obtain ⟨s, hs⟩ := exists_build_settled_nil view
    rw [hoptional, Loader.buildWith_nil, hs] at hrefused
    cases hrefused
  | some entries =>
    obtain ⟨found, content, hfind, hcontent⟩ := textFor?_eq_some_iff.mp htext
    have hlaid : [FileLayer.mk path true].foldlM (applyFile view) defaults =
        .ok (defaults.overlayFile (Value.ofTomlEntries (some (shownPath found)) entries)) := by
      simp [applyFile, hfind, hcontent, hread]
    obtain ⟨s, hs⟩ := exists_build_settled hlaid
    rw [Loader.buildWith_nil, Loader.withFile, List.nil_append, hs] at hrequired
    cases hrequired

/-- A path that every build refuses has a text. -/
lemma Refuses.textFor?_ne_none (h : Refuses view path) : textFor? view path ≠ none := by
  intro hnone
  obtain ⟨-, e, hrefused⟩ := h ⟨[], settled.filterMap Call.value?⟩ []
  obtain ⟨s, hs⟩ := exists_build_settled_nil view
  rw [(passesOver_of_textFor? hnone _ []).1, Loader.buildWith_nil, hs] at hrefused
  cases hrefused

lemma honouredOrReported_iff_foundAsNamed :
    HonouredOrReported view path ↔ FoundAsNamed view path := by
  unfold FoundAsNamed
  cases hfile : fileAt? view path with
  | none =>
    refine ⟨fun h => (h.absent hfile).textFor?, fun h => ⟨fun _ => passesOver_of_textFor? h, ?_⟩⟩
    intro content hcontent
    rw [hfile] at hcontent
    cases hcontent
  | some content =>
    have htextFor : textFor? view path = content.text? := textFor?_of_fileAt? hfile
    constructor
    · intro h htext
      have hentries : entries? content = none := by simp [entries?, htext]
      exact (h.unreadable content hfile hentries).textFor?_ne_none (htextFor.trans htext)
    · intro htext
      refine ⟨fun hnone => absurd (hfile.symm.trans hnone) nofun, fun other hother hentries => ?_⟩
      obtain rfl : content = other := Option.some.inj (hfile.symm.trans hother)
      obtain ⟨text, hcontent⟩ := Option.ne_none_iff_exists'.mp htext
      refine refuses_of_malformed (htextFor.trans hcontent) ?_
      simpa [entries?, hcontent] using hentries

/-- **What naming a file does.** Where a text is found for the path, it counts as a document, alike
for a required and an optional file, or makes the build fail. Where none is found, a required file
makes the build fail and an optional one has no effect. So a file counts or is reported, and one
that is absent has no effect, exactly if the file at the path is a text, or if there is none at the
path and no text is found under its longer name. -/
theorem naming_outcomes (view : Files.View) (path : String) : Naming view path ∧
    (HonouredOrReported view path ↔ FoundAsNamed view path) :=
  ⟨naming view path, honouredOrReported_iff_foundAsNamed⟩

/-! ## Where it does not -/

/-- A directory in which there is one file. -/
def onlyFile (name : String) (content : Content) : Files.View := fun path =>
  if path = name then .ok (.file content) else .error .notFound

/-- A byte that starts no character. -/
def strayByte : Content := .bytes ⟨#[0xFF]⟩

lemma fileAt?_onlyFile (name path : String) (content : Content) :
    fileAt? (onlyFile name content) path = if path = name then some content else none := by
  by_cases h : path = name <;> simp [fileAt?, onlyFile, h]

/-- The file at the path is no text, so it is passed over if it is optional. Where the path is that
of no file, one of the longer name counts in its place. -/
theorem not_honouredOrReported :
    ¬ HonouredOrReported (onlyFile "fieldsheet.toml" strayByte) "fieldsheet.toml" ∧
      ¬ HonouredOrReported (onlyFile "fieldsheet.toml.toml" (.ofText landscapeFile))
        "fieldsheet.toml" := by
  constructor
  · intro h
    have hfound := honouredOrReported_iff_foundAsNamed.mp h
    have hstray : strayByte.text? = none := by decide
    rw [FoundAsNamed, fileAt?_onlyFile, if_pos rfl] at hfound
    exact hfound hstray
  · intro h
    have hfound := honouredOrReported_iff_foundAsNamed.mp h
    have hlonger : withExtension "fieldsheet.toml" = some "fieldsheet.toml.toml" := by decide
    have htext : textFor? (onlyFile "fieldsheet.toml.toml" (.ofText landscapeFile))
        "fieldsheet.toml" = some landscapeFile := by
      simp [textFor?, find?, fileAt?_onlyFile, hlonger, Content.text?_ofText]
    rw [FoundAsNamed, fileAt?_onlyFile, if_neg (by decide), htext] at hfound
    cases hfound

end FieldList.Settings
