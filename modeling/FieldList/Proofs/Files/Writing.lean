import FieldList.Files.Tree
import Mathlib.Tactic.Common

/-!
# What a write changes

`Wrote` says what is left behind by a write: the path leads to the new content, and at every other
place stands what stood there before. `wrote_insert` is that statement for every tree, and every
path that can be opened for writing.

A path is followed through directories only. A file is never put in the place of a directory, so
the way to it stays open (`follow_insert`).
-/

namespace FieldList.Files.Tree

variable {t : Tree} {target : List String} {content : Content}

/-! ## Paths after a write -/

/-- A directory that could be entered still can. -/
lemma enter_insert (hne : target ≠ []) (htarget : t.node? target ≠ some .directory)
    {place reached : List String} {name : String} (h : t.enter place name = .ok reached) :
    (t.insert target (.file content)).enter place name = .ok reached := by
  unfold enter at h ⊢
  by_cases hstay : name = "."
  · simpa [hstay] using h
  by_cases hup : name = ".."
  · simpa [hup] using h
  by_cases hlong : name.utf8ByteSize > Path.maxNameLength
  · simp [hstay, hup, hlong] at h
  rw [if_neg hstay, if_neg hup, if_neg hlong] at h ⊢
  cases hnode : t.node? (place ++ [name]) with
  | none => simp [hnode] at h
  | some node =>
    cases node with
    | file other => simp [hnode] at h
    | directory =>
      have hother : place ++ [name] ≠ target := by
        intro heq
        exact htarget (heq ▸ hnode)
      rw [node?_insert t target _ hne, if_neg hother, hnode]
      simpa [hnode] using h

lemma foldlM_enter_insert (hne : target ≠ []) (htarget : t.node? target ≠ some .directory)
    {names : List String} {start reached : List String}
    (h : names.foldlM t.enter start = .ok reached) :
    names.foldlM (t.insert target (.file content)).enter start = .ok reached := by
  induction names generalizing start with
  | nil => exact h
  | cons name names ih =>
    rw [List.foldlM_cons] at h ⊢
    cases hname : t.enter start name with
    | error e => simp [hname, bind, Except.bind] at h
    | ok next =>
      rw [hname] at h
      rw [enter_insert hne htarget hname]
      exact ih h

/-- The way to a name: the directories before it can be entered, and it stays in the last. -/
lemma follow_eq_entry_iff {p : Path} {place : List String} {name : String} :
    t.follow p = .ok (.entry place name) ↔
      p.names.getLast? = some name ∧ name ≠ "." ∧ name ≠ ".." ∧
        p.names.dropLast.foldlM t.enter (if p.absolute then [] else t.workingDirectory) =
          .ok place := by
  unfold follow
  cases hlast : p.names.getLast? with
  | none => simp [pure, Except.pure]
  | some last =>
    cases hway : p.names.dropLast.foldlM t.enter
      (if p.absolute then [] else t.workingDirectory) with
    | error e => simp [hway, bind, Except.bind]
    | ok reached =>
      -- A last name of dots leads to a directory or nowhere, and any other stays a name.
      cases henter : t.enter reached last <;>
        simp only [hway, henter, bind, Except.bind, pure, Except.pure] <;> grind

/-- A path that could be followed to a name still leads there. -/
lemma follow_insert (content : Content) (hne : target ≠ [])
    (htarget : t.node? target ≠ some .directory) {p : Path} {place : List String} {name : String}
    (h : t.follow p = .ok (.entry place name)) :
    (t.insert target (.file content)).follow p = .ok (.entry place name) := by
  rw [follow_eq_entry_iff] at h ⊢
  obtain ⟨hlast, hstay, hup, hway⟩ := h
  exact ⟨hlast, hstay, hup, foldlM_enter_insert hne htarget hway⟩

/-- What has to hold for a path to be opened for writing. -/
lemma writable_eq_ok_iff {path : String} {place : List String} :
    t.writable path = .ok place ↔ ∃ p base name, Path.ofString path = .ok p ∧
      t.follow p = .ok (.entry base name) ∧ p.endsInSlash = false ∧
        name.utf8ByteSize ≤ Path.maxNameLength ∧ t.node? (base ++ [name]) ≠ some .directory ∧
          place = base ++ [name] := by
  unfold writable
  cases hpath : Path.ofString path with
  | error e => simp [bind, Except.bind]
  | ok p =>
    cases hfollow : t.follow p with
    | error e => simp [hfollow, bind, Except.bind]
    | ok reached =>
      cases reached with
      | directory => simp [hfollow, bind, Except.bind, throw, throwThe, MonadExceptOf.throw]
      | entry base name =>
        simp only [hfollow, bind, Except.bind, throw, throwThe, MonadExceptOf.throw, pure,
          Except.pure, Except.ok.injEq]
        grind

/-- A path that was opened for writing leads to the content that was put at its place. -/
lemma look_insert_of_writable {path : String} {place : List String}
    (h : t.writable path = .ok place) :
    (t.insert place (.file content)).look path = .ok (.file content) := by
  obtain ⟨p, base, name, hpath, hfollow, hslash, hname, hnode, rfl⟩ := writable_eq_ok_iff.mp h
  have hne : base ++ [name] ≠ [] := by simp
  have hfollow' := follow_insert content hne hnode hfollow
  have hnode' : (t.insert (base ++ [name]) (.file content)).node? (base ++ [name]) =
      some (.file content) := by
    rw [node?_insert t _ _ hne, if_pos rfl]
  simp [look, hpath, hfollow', hslash, hnode', Nat.not_lt.mpr hname, bind, Except.bind, pure,
    Except.pure]

/-! ## Writes -/

/-- The second tree is the first with this content in the file at the path, and nothing else
changed. -/
structure Wrote (before : Tree) (path : String) (content : Content) (after : Tree) : Prop where
  look_eq : after.look path = .ok (.file content)
  node?_eq : ∃ place, before.writable path = .ok place ∧
    ∀ other, after.node? other = if other = place then some (.file content) else before.node? other
  workingDirectory_eq : after.workingDirectory = before.workingDirectory

lemma write_eq_of_writable {path : String} {place : List String}
    (h : t.writable path = .ok place) :
    t.write path content = .ok (t.insert place (.file content)) := by
  rw [write, h]
  rfl

lemma write_eq_of_not_writable {path : String} {cause : OpenError}
    (h : t.writable path = .error cause) : t.write path content = .error cause := by
  rw [write, h]
  rfl

/-- A write that can open its file puts the content there and changes nothing else. -/
lemma wrote_insert {path : String} {place : List String} (h : t.writable path = .ok place) :
    Wrote t path content (t.insert place (.file content)) where
  look_eq := look_insert_of_writable h
  node?_eq := by
    obtain ⟨-, base, name, -, -, -, -, -, rfl⟩ := writable_eq_ok_iff.mp h
    exact ⟨base ++ [name], h, fun other => node?_insert t _ _ (by simp) other⟩
  workingDirectory_eq := rfl

/-- All trees that a write can leave look the same at every place. -/
lemma Wrote.node?_unique {path : String} {after after' : Tree} (h : Wrote t path content after)
    (h' : Wrote t path content after') (other : List String) :
    after.node? other = after'.node? other := by
  obtain ⟨place, hplace, hafter⟩ := h.node?_eq
  obtain ⟨place', hplace', hafter'⟩ := h'.node?_eq
  obtain rfl : place = place' := Except.ok.inj (hplace.symm.trans hplace')
  rw [hafter, hafter']

end FieldList.Files.Tree
