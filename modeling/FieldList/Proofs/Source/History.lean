import FieldList.Proofs.Source.Assembly
import Mathlib.Data.List.DropRight

/-!
# Histories of pending annotations

Annotations are absorbed, bound to a declaration or cleared away, in any order. A binding and a
clearing are resets: `history_eq_spans` says that what is pending, and each field that is bound,
comes from the events absorbed since the last reset alone, and from the last one of each kind among
them. So events of different kinds between two resets can be absorbed in another order.

The span of events since the last reset is cut out of the history itself and says nothing of what is
pending (`sinceReset`). One step appends an event to the span or starts a new one, and
`endOfHistory_eq` carries this through a history from its start.
-/

namespace FieldList.Source.Pending

/-! ## Spans -/

def Action.isReset : Action → Bool
  | absorb _ => false
  | bind _ _ => true
  | clear => true

def Action.event? : Action → Option Event
  | absorb e => some e
  | bind _ _ => none
  | clear => none

/-- The events absorbed since the last reset, or since the start. -/
def sinceReset (actions : List Action) : List Event :=
  (actions.rtakeWhile fun action => !action.isReset).filterMap Action.event?

/-- What some events add up to: the last of each kind. -/
def summary (events : List Event) : Pending where
  description := lastText events
  dateFormat := lastFormat events
  notNull := decide (.notNull ∈ events)

/-- The step `action` after the steps `before` leaves `p` pending and gives the field `declared`, as
the events since the last reset have it. -/
structure FromSpan (before : List Action) (action : Action) (p : Pending)
    (declared : Option Field) : Prop where
  pending_eq : p = summary (sinceReset (before ++ [action]))
  isEmpty_iff : p.isEmpty ↔ ∀ e ∈ sinceReset (before ++ [action]), e.isDeclaration
  empty_of_reset : action.isReset → p = empty
  /-- What was pending before stays. -/
  of_declaration : ∀ dataType name, action = .absorb (.declaration dataType name) →
    p = summary (sinceReset before)
  declared_eq : declared =
    match action with
    | .bind dataType name => some (fieldOf (sinceReset before) dataType name)
    | .absorb _ | .clear => none

/-- The same events in another order, which is the same among the events of each kind. -/
def SameByKind (events events' : List Event) : Prop :=
  ∀ kind, events.filter (·.rank = kind) = events'.filter (·.rank = kind)

variable {action : Action} {events events' : List Event}

lemma sinceReset_append_absorb (actions : List Action) (e : Event) :
    sinceReset (actions ++ [.absorb e]) = sinceReset actions ++ [e] := by
  rw [sinceReset, List.rtakeWhile_concat_pos _ _ _ rfl, List.filterMap_append, sinceReset]
  rfl

lemma sinceReset_append_reset (actions : List Action) (h : action.isReset) :
    sinceReset (actions ++ [action]) = [] := by
  rw [sinceReset, List.rtakeWhile_concat_neg _ _ _ (by simp [h]), List.filterMap_nil]

/-! ## Sums of events -/

lemma foldl_absorb_empty (events : List Event) : events.foldl absorb empty = summary events := by
  rw [foldl_absorb]
  simp [empty, summary]

lemma summary_append_singleton (events : List Event) (e : Event) :
    summary (events ++ [e]) = (summary events).absorb e := by
  rw [← foldl_absorb_empty, List.foldl_append, foldl_absorb_empty]
  rfl

lemma field_summary (events : List Event) (dataType name : String) :
    (summary events).field dataType name = fieldOf events dataType name := by
  rw [← foldl_absorb_empty, field_foldl_absorb]

lemma isEmpty_absorb (p : Pending) (e : Event) :
    (p.absorb e).isEmpty = (p.isEmpty && e.isDeclaration) := by
  cases e <;> simp [absorb, isEmpty, Event.isDeclaration]

/-- Nothing is pending when no annotation was absorbed. -/
lemma isEmpty_summary_iff : (summary events).isEmpty ↔ ∀ e ∈ events, e.isDeclaration := by
  induction events using List.reverseRecOn with
  | nil => simp [summary, isEmpty, lastText, lastFormat]
  | append_singleton events e ih =>
    rw [summary_append_singleton, isEmpty_absorb, Bool.and_eq_true, ih]
    simp [or_imp, forall_and]

/-! ## Runs -/

/-- What is pending at the end of a history. -/
def endOfHistory (p : Pending) (actions : List Action) : Pending :=
  actions.foldl (fun p action => (p.act action).1) p

lemma history_append (p : Pending) (actions actions' : List Action) :
    p.history (actions ++ actions') =
      p.history actions ++ (p.endOfHistory actions).history actions' := by
  induction actions generalizing p with
  | nil => rfl
  | cons action actions ih => exact congrArg (p.act action :: ·) (ih (p.act action).1)

lemma length_history (p : Pending) (actions : List Action) :
    (p.history actions).length = actions.length := by
  induction actions generalizing p with
  | nil => rfl
  | cons action actions ih => exact congrArg (· + 1) (ih (p.act action).1)

/-- A step keeps that the span since the last reset adds up to what is pending. -/
lemma act_summary (actions : List Action) (action : Action) :
    ((summary (sinceReset actions)).act action).1 = summary (sinceReset (actions ++ [action])) := by
  cases action with
  | absorb e => rw [sinceReset_append_absorb, summary_append_singleton, act]
  | bind dataType name => rw [sinceReset_append_reset actions rfl]; rfl
  | clear => rw [sinceReset_append_reset actions rfl]; rfl

lemma endOfHistory_eq (actions : List Action) :
    empty.endOfHistory actions = summary (sinceReset actions) := by
  induction actions using List.reverseRecOn with
  | nil => rfl
  | append_singleton actions action ih =>
    rw [← act_summary, ← ih, endOfHistory, List.foldl_append]
    rfl

/-- Every step has its outcome from the events since the last reset before it. -/
lemma fromSpan_act (before : List Action) (action : Action) :
    FromSpan before action ((summary (sinceReset before)).act action).1
      ((summary (sinceReset before)).act action).2 where
  pending_eq := act_summary before action
  isEmpty_iff := by rw [act_summary, isEmpty_summary_iff]
  empty_of_reset h := by
    cases action with
    | absorb e => simp [Action.isReset] at h
    | bind dataType name => rfl
    | clear => rfl
  of_declaration := by
    rintro dataType name rfl
    rfl
  declared_eq := by
    cases action with
    | absorb e => rfl
    | bind dataType name => exact congrArg some (field_summary _ _ _)
    | clear => rfl

/-! ## Other orders -/

lemma SameByKind.perm (h : SameByKind events events') : events.Perm events' := by
  rw [List.perm_iff_count]
  intro e
  have hkind : ∀ events : List Event,
      events.count e = (events.filter (·.rank = e.rank)).count e := by
    intro events
    rw [List.count_filter (by simp)]
  rw [hkind, h e.rank, ← hkind]

/-- What the events of one kind say does not change. -/
lemma SameByKind.filterMap_eq {α : Type} (h : SameByKind events events') {find : Event → Option α}
    (kind : Nat) (hfind : ∀ e, e.rank ≠ kind → find e = none) :
    events.filterMap find = events'.filterMap find := by
  have hkind : ∀ events : List Event,
      events.filterMap find = (events.filter (·.rank = kind)).filterMap find := by
    intro events
    rw [List.filterMap_filter]
    refine List.filterMap_congr fun e _ => ?_
    by_cases he : e.rank = kind
    · simp [he]
    · simp [he, hfind e he]
  rw [hkind, h kind, ← hkind]

lemma SameByKind.foldl_absorb_eq (h : SameByKind events events') (p : Pending) :
    events.foldl absorb p = events'.foldl absorb p := by
  have htext : lastText events = lastText events' := by
    rw [lastText, lastText, h.filterMap_eq 0]
    intro e he
    cases e <;> simp_all [Event.rank, Event.text?]
  have hformat : lastFormat events = lastFormat events' := by
    rw [lastFormat, lastFormat, h.filterMap_eq 1]
    intro e he
    cases e <;> simp_all [Event.rank, Event.format?]
  rw [foldl_absorb, foldl_absorb, htext, hformat]
  simp [h.perm.mem_iff]

lemma history_absorbs (p : Pending) (events : List Event) :
    (p.history (events.map .absorb)).map Prod.snd = List.replicate events.length none := by
  induction events generalizing p with
  | nil => rfl
  | cons e events ih => exact congrArg (none :: ·) (ih (p.absorb e))

lemma endOfHistory_absorbs (p : Pending) (events : List Event) :
    p.endOfHistory (events.map .absorb) = events.foldl absorb p := by
  rw [endOfHistory, List.foldl_map]
  rfl

/-- **Only the span since the last reset counts.** After each step of any history from the start,
what is pending is the sum of the events absorbed since the last reset. It is nothing when these
are no annotations, and so it is after each reset; an absorbed declaration adds nothing to it. A
field is bound from the span before it. Events absorbed one after the other can change places with
those of other kinds, and all fields bound in the history stay the same. -/
theorem history_eq_spans :
    (∀ before action later, ∃ p declared,
        (empty.history (before ++ action :: later))[before.length]? = some (p, declared) ∧
          FromSpan before action p declared) ∧
      ∀ before events events' later, SameByKind events events' →
        (empty.history (before ++ events.map .absorb ++ later)).map Prod.snd =
          (empty.history (before ++ events'.map .absorb ++ later)).map Prod.snd := by
  refine ⟨fun before action later => ?_, fun before events events' later h => ?_⟩
  · refine ⟨_, _, ?_, fromSpan_act before action⟩
    rw [history_append, List.getElem?_append_right (length_history _ _).le, length_history,
      Nat.sub_self, endOfHistory_eq]
    rfl
  · rw [List.append_assoc, List.append_assoc, history_append, history_append, history_append,
      history_append, endOfHistory_absorbs, endOfHistory_absorbs, h.foldl_absorb_eq]
    simp only [List.map_append, history_absorbs, h.perm.length_eq]

/-- The description and the format change places, and the format stays before the one that cancels
it. -/
theorem history_eq_spans_reordered :
    SameByKind [.dateFormat .date, .description "Born", .dateFormat (.other "Const.ISO"), .notNull]
        [.notNull, .dateFormat .date, .dateFormat (.other "Const.ISO"), .description "Born"] ∧
      (empty.history ([.absorb .notNull, .clear] ++ [.notNull, .dateFormat .date,
          .dateFormat (.other "Const.ISO"), .description "Born"].map .absorb ++
            [.bind "Date" "day"])).map Prod.snd =
        [none, none, none, none, none, none, some ⟨"day", "Date", "Born", .required⟩] := by
  have hkinds : SameByKind
      [.dateFormat .date, .description "Born", .dateFormat (.other "Const.ISO"), .notNull]
      [.notNull, .dateFormat .date, .dateFormat (.other "Const.ISO"), .description "Born"] := by
    intro kind
    rcases kind with _ | _ | _ | kind <;> rfl
  have hfields := history_eq_spans.2 [.absorb .notNull, .clear] _ _ [.bind "Date" "day"] hkinds
  refine ⟨hkinds, ?_⟩
  rw [← hfields]
  decide

end FieldList.Source.Pending
