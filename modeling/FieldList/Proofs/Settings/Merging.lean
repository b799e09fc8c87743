import FieldList.Settings.Loader
import Mathlib.Tactic.Common

/-!
# What merging does to single settings

`Key` names the five settings, and `Value.held? root k` is the text that a layered value holds for
one of them. Merging is looked at through `held?` only. Every kind of layer has a lemma of the same
shape: what is held afterwards is the last text that the layer gives for the setting, or else what
was held before. `get_foldl_eq` makes such a lemma for many layers out of one for a single layer.

Keys are put into lower case before they are merged, so a key that differs from a setting's in case
alone would count as that key. `GroupEntry` and `RootEntry` leave such keys out, and with them those
of the root that would be read as key paths into a group.
-/

namespace FieldList.Settings

/-! ## Settings by name -/

inductive Key where
  | title
  | fileName
  | orientation
  | label
  | format
  deriving DecidableEq, Repr

namespace Key

def group : Key → Group
  | title | fileName | orientation => .document
  | label | format => .exporting

/-- The key of the setting in its group. -/
def name : Key → String
  | title => "title"
  | fileName => "file_name"
  | orientation => "orientation"
  | label => "label_prefix"
  | format => "format"

/-- The key path of the setting. -/
def path (k : Key) : String := k.group.key ++ "." ++ k.name

/-- The text of the setting under all layers. -/
def defaultText : Key → String
  | title => Table.defaultTitle
  | fileName => "FieldList.docx"
  | orientation => "portrait"
  | label => ""
  | format => "docx"

/-- The texts that the setting can have: any, but for the orientation. -/
def Admits (k : Key) (text : String) : Prop :=
  k = .orientation → text = "portrait" ∨ text = "landscape"

lemma parse_path (k : Key) : KeyPath.parse k.path = .ok ⟨k.group.key, [.key k.name]⟩ := by
  cases k <;> rfl

lemma lowerKey_name (k : Key) : Value.lowerKey k.name = k.name := by
  cases k <;> decide

lemma lowerKey_group_key (k : Key) : Value.lowerKey k.group.key = k.group.key := by
  cases k <;> decide

lemma group_eq_of_key_eq {k k' : Key} (h : k.group.key = k'.group.key) : k.group = k'.group := by
  cases k <;> cases k' <;> first | rfl | exact absurd h (by decide)

lemma eq_of_group_of_name {k k' : Key} (hgroup : k.group.key = k'.group.key)
    (hname : k.name = k'.name) : k = k' := by
  cases k <;> cases k' <;> first | rfl | exact absurd hname (by decide)

end Key

/-- The text of a setting. -/
def text (s : Settings) : Key → String
  | .title => s.title
  | .fileName => s.fileName
  | .orientation => s.orientation.keyword
  | .label => s.label
  | .format => s.format

/-! ## The last text that is given -/

section Last

variable {α β ρ : Type*}

lemma getLast?_filterMap_cons (give : α → Option β) (a : α) (rest : List α) :
    ((a :: rest).filterMap give).getLast? = (rest.filterMap give).getLast?.or (give a) := by
  cases h : give a with
  | none => simp [h]
  | some b => simp [h, List.getLast?_cons]

/-- Where each step keeps what is got or replaces it by what the step gives, the last that is given
is got in the end. -/
lemma get_foldl_eq {step : ρ → α → ρ} (get : ρ → Option β) {give : α → Option β} {l : List α}
    (hstep : ∀ a ∈ l, ∀ r, get (step r a) = (give a).or (get r)) (r : ρ) :
    get (l.foldl step r) = (l.filterMap give).getLast?.or (get r) := by
  induction l generalizing r with
  | nil => rfl
  | cons a rest ih =>
    have hrest := ih (fun b hb => hstep b (List.mem_cons_of_mem a hb)) (step r a)
    rw [List.foldl_cons, hrest, hstep a List.mem_cons_self, getLast?_filterMap_cons,
      Option.or_assoc]

lemma exists_of_getLast?_filterMap {give : α → Option β} {l : List α} {b : β}
    (h : (l.filterMap give).getLast? = some b) : ∃ a ∈ l, give a = some b :=
  List.mem_filterMap.mp (List.mem_of_getLast? h)

end Last

/-! ## Entries of files -/

/-- The text that the entry of a group's table gives for a setting of the group. -/
def entryText? (k : Key) (name : String) (w : Toml.Value) : Option String :=
  match w with
  | .string text => if name = k.name then some text else none
  | _ => none

/-- The text that a group's table gives for a setting of the group. -/
def tableText? (k : Key) (inner : List (String × Toml.Value)) : Option String :=
  (inner.filterMap fun e => entryText? k e.1 e.2).getLast?

/-- The text that the entry of a file gives for a setting. -/
def rootText? (k : Key) (name : String) (w : Toml.Value) : Option String :=
  match w with
  | .table inner => if name = k.group.key then tableText? k inner else none
  | _ => none

/-- The text that a file gives for a setting. -/
def definedText? (k : Key) (entries : List (String × Toml.Value)) : Option String :=
  (entries.filterMap fun e => rootText? k e.1 e.2).getLast?

lemma entryText?_eq_none {k : Key} {name : String} (h : Value.lowerKey name ≠ k.name)
    (w : Toml.Value) : entryText? k name w = none := by
  have hne : name ≠ k.name := by
    rintro rfl
    exact h k.lowerKey_name
  cases w <;> simp [entryText?, hne]

lemma rootText?_eq_none {k : Key} {name : String} (h : Value.lowerKey name ≠ k.group.key)
    (w : Toml.Value) : rootText? k name w = none := by
  have hne : name ≠ k.group.key := by
    rintro rfl
    exact h k.lowerKey_group_key
  cases w <;> simp [rootText?, hne]

/-- What may stand in a group's table: a text for one of its settings, and anything under other
keys. -/
inductive GroupEntry (group : Group) : String → Toml.Value → Prop where
  | setting (k : Key) (text : String) (hgroup : k.group = group) (hadmits : k.Admits text) :
    GroupEntry group k.name (.string text)
  | other (name : String) (w : Toml.Value)
    (hname : ∀ k : Key, k.group = group → Value.lowerKey name ≠ k.name) :
    GroupEntry group name w

/-- What may stand in a file: the table of a group, and anything under other keys. -/
inductive RootEntry : String → Toml.Value → Prop where
  | group (k : Key) (inner : List (String × Toml.Value))
    (hinner : ∀ e ∈ inner, GroupEntry k.group e.1 e.2) :
    RootEntry k.group.key (.table inner)
  | other (name : String) (w : Toml.Value) (hpoint : '.' ∉ name.toList)
    (hbracket : '[' ∉ name.toList) (hname : ∀ k : Key, Value.lowerKey name ≠ k.group.key) :
    RootEntry name w

/-- The entries of a file that give texts for the settings, if anything. -/
def WellFormed (entries : List (String × Toml.Value)) : Prop := ∀ e ∈ entries, RootEntry e.1 e.2

lemma GroupEntry.admits {k : Key} {name text : String} {w : Toml.Value}
    (h : GroupEntry k.group name w) (htext : entryText? k name w = some text) :
    k.Admits text := by
  cases h with
  | setting k' text' hgroup hadmits =>
    obtain ⟨hname, rfl⟩ : k'.name = k.name ∧ text' = text := by simpa [entryText?] using htext
    exact Key.eq_of_group_of_name (congrArg Group.key hgroup) hname ▸ hadmits
  | other _ _ hname =>
    rw [entryText?_eq_none (hname k rfl)] at htext
    cases htext

lemma RootEntry.admits {k : Key} {name text : String} {w : Toml.Value} (h : RootEntry name w)
    (htext : rootText? k name w = some text) : k.Admits text := by
  cases h with
  | group k' inner hinner =>
    obtain ⟨hkey, hlast⟩ : k'.group.key = k.group.key ∧ tableText? k inner = some text := by
      simpa only [rootText?, Option.ite_none_right_eq_some] using htext
    obtain ⟨e, he, hentry⟩ := exists_of_getLast?_filterMap hlast
    exact (Key.group_eq_of_key_eq hkey ▸ hinner e he).admits hentry
  | other _ _ _ _ hname =>
    rw [rootText?_eq_none (hname k)] at htext
    cases htext

lemma WellFormed.admits {k : Key} {entries : List (String × Toml.Value)} {text : String}
    (h : WellFormed entries) (htext : definedText? k entries = some text) : k.Admits text := by
  obtain ⟨e, he, hentry⟩ := exists_of_getLast?_filterMap htext
  exact (h e he).admits hentry

/-! ## What a layered value holds -/

namespace Value

def text? : Value → Option String
  | scalar _ (.text s) => some s
  | _ => none

/-- The text that a table holds under a key. -/
def textUnder? (v : Value) (name : String) : Option String := (v.entries.lookup name).bind text?

/-- The text that is held for a setting. -/
def held? (root : Value) (k : Key) : Option String :=
  (root.entries.lookup k.group.key).bind (textUnder? · k.name)

lemma lookup_withEntry (root : Value) (key : String) (v : Value) (other : String) :
    (root.withEntry key v).entries.lookup other =
      if other = key then some v else root.entries.lookup other := by
  cases root with
  | table origin entries => exact lookup_putEntry key v entries other
  | scalar origin s => exact lookup_putEntry key v [] other
  | list origin items => exact lookup_putEntry key v [] other

lemma textUnder?_withEntry (root : Value) (key : String) (v : Value) (name : String) :
    (root.withEntry key v).textUnder? name =
      if name = key then v.text? else root.textUnder? name := by
  unfold textUnder?
  rw [lookup_withEntry]
  split <;> rfl

lemma held?_withEntry (root : Value) (key : String) (v : Value) (k : Key) :
    (root.withEntry key v).held? k =
      if k.group.key = key then v.textUnder? k.name else root.held? k := by
  unfold held?
  rw [lookup_withEntry]
  split <;> rfl

/-- What is held is what the group's table holds. A missing table holds as much as an empty one. -/
lemma textUnder?_getD_lookup (root : Value) (k : Key) {missing : Value}
    (hmissing : missing.entries = []) :
    ((root.entries.lookup k.group.key).getD missing).textUnder? k.name = root.held? k := by
  unfold held?
  cases root.entries.lookup k.group.key with
  | none => simp [textUnder?, hmissing]
  | some v => rfl

/-- Whatever is laid over a key, it is put under the key in lower case. -/
lemma exists_overlay_eq (root : Value) (key : String) (v : Value) :
    ∃ w, root.overlay key v = root.withEntry (lowerKey key) w := by
  cases v with
  | table origin incoming => exact ⟨_, overlay.eq_1 root key origin incoming⟩
  | scalar origin s => exact ⟨_, overlay.eq_2 root key _ (by simp)⟩
  | list origin items => exact ⟨_, overlay.eq_2 root key _ (by simp)⟩

lemma overlay_text (root : Value) (key : String) (origin : Option String) (s : String) :
    root.overlay key (scalar origin (.text s)) =
      root.withEntry (lowerKey key) (scalar origin (.text s)) :=
  overlay.eq_2 root key _ (by simp)

/-! ## Laying the entries of a file over a value -/

lemma ofTomlEntries_eq_map (origin : Option String) (entries : List (String × Toml.Value)) :
    ofTomlEntries origin entries = entries.map fun e => (e.1, ofToml origin e.2) := by
  induction entries with
  | nil => simp [ofTomlEntries]
  | cons e rest ih => simp [ofTomlEntries, ih]

lemma overlayAll_ofTomlEntries (root : Value) (origin : Option String)
    (entries : List (String × Toml.Value)) :
    root.overlayAll (ofTomlEntries origin entries) =
      entries.foldl (fun root e => root.overlay e.1 (ofToml origin e.2)) root := by
  induction entries generalizing root with
  | nil => simp [ofTomlEntries, overlayAll]
  | cons e rest ih => simp [ofTomlEntries, overlayAll, ih]

lemma textUnder?_overlay {k : Key} {name : String} {w : Toml.Value}
    (h : GroupEntry k.group name w) (origin : Option String) (v : Value) :
    (v.overlay name (ofToml origin w)).textUnder? k.name =
      (entryText? k name w).or (v.textUnder? k.name) := by
  cases h with
  | setting k' text hgroup hadmits =>
    rw [ofToml, overlay_text, textUnder?_withEntry, Key.lowerKey_name]
    by_cases hname : k.name = k'.name
    · simp [entryText?, hname, text?]
    · simp [entryText?, hname, Ne.symm hname]
  | other _ _ hname =>
    obtain ⟨put, hput⟩ := exists_overlay_eq v name (ofToml origin w)
    rw [hput, textUnder?_withEntry, if_neg (Ne.symm (hname k rfl)),
      entryText?_eq_none (hname k rfl), Option.none_or]

lemma textUnder?_overlayAll {k : Key} {inner : List (String × Toml.Value)}
    (h : ∀ e ∈ inner, GroupEntry k.group e.1 e.2) (origin : Option String) (v : Value) :
    (v.overlayAll (ofTomlEntries origin inner)).textUnder? k.name =
      (tableText? k inner).or (v.textUnder? k.name) := by
  rw [overlayAll_ofTomlEntries]
  exact get_foldl_eq (textUnder? · k.name) (fun e he => textUnder?_overlay (h e he) origin) v

lemma held?_overlay {name : String} {w : Toml.Value} (h : RootEntry name w)
    (origin : Option String) (root : Value) (k : Key) :
    (root.overlay name (ofToml origin w)).held? k = (rootText? k name w).or (root.held? k) := by
  cases h with
  | group k' inner hinner =>
    rw [ofToml, overlay, held?_withEntry, Key.lowerKey_group_key]
    by_cases hkey : k.group.key = k'.group.key
    · have hgroup : k'.group = k.group := Key.group_eq_of_key_eq hkey.symm
      rw [if_pos hkey, textUnder?_overlayAll (hgroup ▸ hinner), ← hkey,
        textUnder?_getD_lookup root k rfl, rootText?, if_pos rfl]
    · simp [rootText?, hkey, Ne.symm hkey]
  | other _ _ _ _ hname =>
    obtain ⟨put, hput⟩ := exists_overlay_eq root name (ofToml origin w)
    rw [hput, held?_withEntry, if_neg (Ne.symm (hname k)), rootText?_eq_none (hname k),
      Option.none_or]

end Value

/-! ## Names that are no paths -/

lemma KeyPath.eq_of_readKey {name root : String} {rest : List Char}
    (h : readKey name.toList = some (root, rest)) : name.toList = root.toList ++ rest := by
  unfold readKey at h
  split at h
  · cases h
  · obtain ⟨rfl, rfl⟩ : _ = root ∧ _ = rest := by simpa using h
    simp

/-- A text without the signs of a path is the path of a single key, if it is a path at all. -/
lemma KeyPath.eq_of_parse {name : String} {path : KeyPath} (hpoint : '.' ∉ name.toList)
    (hbracket : '[' ∉ name.toList) (h : KeyPath.parse name = .ok path) : path = ⟨name, []⟩ := by
  unfold KeyPath.parse at h
  split at h
  · cases h
  · next root rest hread =>
    have hname := eq_of_readKey hread
    cases rest with
    | nil =>
      obtain rfl : name = root := String.toList_inj.mp (by simpa using hname)
      exact (Except.ok.inj h).symm
    | cons c rest =>
      have hc : c ∈ name.toList := by simp [hname]
      have hne : c ≠ '.' ∧ c ≠ '[' := ⟨fun e => hpoint (e ▸ hc), fun e => hbracket (e ▸ hc)⟩
      rw [List.length_cons, readSteps, if_neg hne.1, if_neg hne.2] at h
      cases h

lemma RootEntry.overlayFile_eq {name : String} {w : Toml.Value} (h : RootEntry name w)
    (root v : Value) : root.overlayFile [(name, v)] = root.overlay name v := by
  have hplain : '.' ∉ name.toList ∧ '[' ∉ name.toList := by
    cases h with
    | group k inner _ => cases k <;> decide
    | other _ _ hpoint hbracket _ => exact ⟨hpoint, hbracket⟩
  cases hparse : KeyPath.parse name with
  | ok path =>
    rw [KeyPath.eq_of_parse hplain.1 hplain.2 hparse] at hparse
    simp [Value.overlayFile, hparse, Value.overlayAt]
  | error e => simp [Value.overlayFile, hparse]

namespace Value

/-! ## Layers -/

lemma held?_overlayFile {entries : List (String × Toml.Value)} (h : WellFormed entries)
    (origin : Option String) (root : Value) (k : Key) :
    (root.overlayFile (ofTomlEntries origin entries)).held? k =
      (definedText? k entries).or (root.held? k) := by
  rw [overlayFile, ofTomlEntries_eq_map, List.foldl_map]
  refine get_foldl_eq (held? · k) (fun e he root => ?_) root
  have hstep := (h e he).overlayFile_eq root (ofToml origin e.2)
  exact (congrArg (held? · k) hstep).trans (held?_overlay (h e he) origin root k)

lemma held?_overlayAt (root : Value) (k : Key) (s : String) (k' : Key) :
    (root.overlayAt ⟨k.group.key, [.key k.name]⟩ (ofText s)).held? k' =
      (if k' = k then some s else none).or (root.held? k') := by
  have hat : root.overlayAt ⟨k.group.key, [.key k.name]⟩ (ofText s) =
      root.withEntry k.group.key
        (((root.entries.lookup k.group.key).getD nil).withEntry k.name (ofText s)) := by
    simp [overlayAt, changeAt, ofText, overlay_text, Key.lowerKey_group_key, Key.lowerKey_name]
  rw [hat, held?_withEntry, textUnder?_withEntry]
  by_cases hkey : k'.group.key = k.group.key
  · by_cases hname : k'.name = k.name
    · have hk : k' = k := Key.eq_of_group_of_name hkey hname
      simp [hk, ofText, text?]
    · have hk : k' ≠ k := fun e => hname (congrArg Key.name e)
      rw [if_pos hkey, if_neg hname, if_neg hk, Option.none_or, ← hkey,
        textUnder?_getD_lookup root k' rfl]
  · have hk : k' ≠ k := fun e => hkey (congrArg (·.group.key) e)
    rw [if_neg hkey, if_neg hk, Option.none_or]

end Value

end FieldList.Settings
