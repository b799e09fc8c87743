/-!
# Terminal sequences

A terminal obeys some characters and shows the others. An escape begins a sequence, such as a
change of colour or a new title of the window, and each kind of sequence has its own end; most
control characters are obeyed on their own. The plain text of a text is what is left without
them: `isShown_of_mem_plainFrom` says that nothing to obey is left, and `plain_eq_self` that a
text without anything to obey is unchanged.
-/

namespace FieldList.Text.Terminal

/-! ## States -/

/-- Where a terminal is in a text. -/
inductive State where
  /-- outside of all sequences -/
  | ground
  /-- right after an escape -/
  | escape
  /-- in an escape sequence of more than one character -/
  | escapeIntermediate
  /-- in a control sequence, such as a colour -/
  | control
  /-- in a command to the system, such as a title -/
  | system
  /-- at the start of a device control sequence -/
  | device
  /-- in the parameters of a device control sequence -/
  | deviceParameter
  /-- between the parameters of a device control sequence and its text -/
  | deviceIntermediate
  /-- in a text that is not for the screen -/
  | string
  deriving DecidableEq, Repr

def isAscii (c : Char) : Bool := c.toNat < 0x80

/-- Whether a character is a blank that takes place on the screen also inside a sequence. -/
def isLayout (c : Char) : Bool := c = '\t' || c = '\n' || c = '\x0c' || c = '\r'

/-- Whether a character from beyond ASCII ends a text that is not for the screen. The end is looked
for byte by byte. -/
def endsString (c : Char) : Bool := !isAscii c && (String.utf8EncodeChar c).contains 0x9C

namespace State

/-- The state after a character that is not shown. -/
def after (s : State) (c : Char) : State :=
  if c = '\x1b' then .escape
  else if c = '\x18' || c = '\x1a' then .ground
  else match s with
    | .ground => .ground
    | .escape =>
      if ' ' ≤ c && c ≤ '/' then .escapeIntermediate
      else if c = '[' then .control
      else if c = ']' then .system
      else if c = 'P' then .device
      else if c = 'X' || c = '^' || c = '_' then .string
      else if '0' ≤ c && c ≤ '~' then .ground
      else .escape
    | .escapeIntermediate => if '0' ≤ c && c ≤ '~' then .ground else .escapeIntermediate
    | .control => if '@' ≤ c && c ≤ '~' then .ground else .control
    | .system => if c = '\x07' then .ground else .system
    | .device =>
      if ' ' ≤ c && c ≤ '/' then .deviceIntermediate
      else if '0' ≤ c && c ≤ '?' then .deviceParameter
      else if '@' ≤ c && c ≤ '~' then .string
      else .device
    | .deviceParameter =>
      if ' ' ≤ c && c ≤ '/' then .deviceIntermediate
      else if '<' ≤ c && c ≤ '~' then .string
      else .deviceParameter
    | .deviceIntermediate => if '0' ≤ c && c ≤ '~' then .string else .deviceIntermediate
    | .string => if endsString c then .ground else .string

/-- Whether a character is shown. -/
def isShown (s : State) (c : Char) : Bool :=
  match s with
  | .ground => isLayout c || ' ' ≤ c && c ≤ '~' || !isAscii c
  | .escape | .escapeIntermediate | .control => isLayout c
  | .system | .device | .deviceParameter | .deviceIntermediate | .string => false

theorem isShown_ground {s : State} {c : Char} (h : s.isShown c) : ground.isShown c := by
  cases s <;> simp_all [isShown]

end State

/-! ## Plain text -/

/-- What is left of a text. Characters are shown in runs, and a run goes on as outside of sequences
even where a sequence that a blank interrupts is still open. -/
def plainFrom (s : State) (inRun : Bool) : List Char → List Char
  | [] => []
  | c :: rest =>
    if (if inRun then .ground else s).isShown c then
      c :: plainFrom (if isAscii c then s else .ground) true rest
    else plainFrom (s.after c) false rest

/-- A text without what a terminal obeys. -/
def plain (s : String) : String := String.ofList (plainFrom .ground false s.toList)

theorem isShown_of_mem_plainFrom {s : State} {inRun : Bool} {cs : List Char} {c : Char}
    (h : c ∈ plainFrom s inRun cs) : State.ground.isShown c := by
  induction cs generalizing s inRun with
  | nil => simp [plainFrom] at h
  | cons d rest ih =>
    rw [plainFrom] at h
    by_cases hd : (if inRun then .ground else s : State).isShown d
    · rw [if_pos hd] at h
      rcases List.mem_cons.mp h with rfl | h
      · exact State.isShown_ground hd
      · exact ih h
    · rw [if_neg hd] at h
      exact ih h

theorem plainFrom_ground_eq_self {inRun : Bool} {cs : List Char}
    (h : ∀ c ∈ cs, State.ground.isShown c) : plainFrom .ground inRun cs = cs := by
  induction cs generalizing inRun with
  | nil => rfl
  | cons d rest ih =>
    have hd := h d (List.mem_cons_self ..)
    simp [plainFrom, hd, ih fun c hc => h c (List.mem_cons_of_mem _ hc)]

theorem plain_eq_self {s : String} (h : ∀ c ∈ s.toList, State.ground.isShown c) :
    plain s = s := by
  rw [plain, plainFrom_ground_eq_self h, String.ofList_toList]

end FieldList.Text.Terminal
