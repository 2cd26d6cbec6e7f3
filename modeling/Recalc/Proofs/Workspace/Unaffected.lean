import Recalc.Proofs.Workspace.Logged
import Recalc.Sheet.Calls

/-!
# Sheets that do not depend on the log

What a sheet answers, and what it is afterwards, does not depend on the log: neither on whether
there is one nor on which events it takes. An event is told before the edit that it is about answers
or is refused, so what is raised on the way would take the place of the answer. That nothing is
raised is due to the guard around the delivery of events.
-/

namespace Recalc

/-! ### Calls in a workspace -/

/-- What may be raised while a sheet is used in a workspace. -/
inductive Raised where
  | edit (e : EditError)
  | log (e : LogError)

/-- The use of a sheet in a workspace. What was done before something is raised stays done. -/
abbrev Use := ExceptT Raised (StateM (Sheet × Workspace))

namespace Use

variable {s : Sheet} {w : Workspace}

def sheet : Use Sheet :=
  return (← get).1

def workspace : Use Workspace :=
  return (← get).2

def putSheet (s : Sheet) : Use Unit :=
  modify fun state => (s, state.2)

def putWorkspace (w : Workspace) : Use Unit :=
  modify fun state => (state.1, w)

/-- Answers, or raises why there is no answer. -/
def conclude {α : Type} : Except EditError α → Use α
  | .ok answer => return answer
  | .error e => throw (.edit e)

/-- Adds an event to the log, or raises why it cannot. -/
def deliver (e : Event) : Use Unit := do
  match (← workspace).deliver e with
  | .ok w => putWorkspace w
  | .error fault => throw (.log fault)

/-- Logs an event. Whatever the delivery raises, there is just a warning. -/
def emit (e : Event) : Use Unit :=
  tryCatch (deliver e) fun _ => do putWorkspace ((← workspace).warn .loggingFailed)

def tell (logging : Event → Use Unit) : Option Event → Use Unit
  | some e => logging e
  | none => return

/-- Sets the contents of a cell from a text. The event about it is told where the edit was refused
or was done, on the way to the answer. -/
def setContents (logging : Event → Use Unit) (name contents : Datum) : Use (List String) := do
  let s ← sheet
  let time := (← workspace).clock
  match contents.text? with
  | none => throw (.edit (.notText contents.kind))
  | some text =>
    match s.checkName name with
    | .error e => throw (.edit (.invalidName e))
    | .ok cell =>
      match Contents.ofText s.naming text with
      | .error e =>
        tell logging (Event.ofEdit? time cell text (.error (.ofContents e)))
        throw (.edit (.ofContents e))
      | .ok entered =>
        putSheet (s.commit cell entered).2
        tell logging (Event.ofEdit? time cell text (s.commit cell entered).1)
        conclude (s.commit cell entered).1

def call (logging : Event → Use Unit) : Call → Use CallAnswer
  | .setContents name contents => return .order (← setContents logging name contents)
  | .query q => do conclude ((← sheet).query q)

/-- Calls one after another. Before each of them the workspace may be changed in any way, be it the
log or what is on the disk. -/
def session (logging : Event → Use Unit) :
    List ((Workspace → Workspace) × Call) →
      StateM (Sheet × Workspace) (List (Except Raised CallAnswer))
  | [] => return []
  | (change, c) :: rest => do
    modify fun state => (state.1, change state.2)
    let answer ← (call logging c).run
    return answer :: (← session logging rest)

/-! ### Running -/

variable {α β : Type} {x : Use α} {f : α → Use β} {state state' : Sheet × Workspace}

lemma run_bind_ok {a : α} (h : x.run.run state = (.ok a, state')) :
    (x >>= f).run.run state = (f a).run.run state' := by
  simp only [ExceptT.run_bind, StateT.run_bind, h]
  rfl

lemma run_bind_error {e : Raised} (h : x.run.run state = (.error e, state')) :
    (x >>= f).run.run state = (.error e, state') := by
  simp only [ExceptT.run_bind, StateT.run_bind, h]
  rfl

lemma run_tryCatch_ok {handler : Raised → Use α} {a : α}
    (h : x.run.run state = (.ok a, state')) :
    (tryCatch x handler).run.run state = (.ok a, state') := by
  simp only [ExceptT.run_tryCatch, StateT.run_bind, h]
  rfl

lemma run_tryCatch_error {handler : Raised → Use α} {e : Raised}
    (h : x.run.run state = (.error e, state')) :
    (tryCatch x handler).run.run state = (handler e).run.run state' := by
  simp only [ExceptT.run_tryCatch, StateT.run_bind, h]
  rfl

lemma run_conclude (answer : Except EditError α) :
    (conclude answer).run.run state = (answer.mapError .edit, state) := by
  cases answer <;> rfl

lemma run_sheet : sheet.run.run (s, w) = (.ok s, s, w) := rfl

lemma run_workspace : workspace.run.run (s, w) = (.ok w, s, w) := rfl

lemma run_putSheet (t : Sheet) : (putSheet t).run.run (s, w) = (.ok (), t, w) := rfl

/-! ### Events are logged or dropped -/

lemma run_deliver (e : Event) : (deliver e).run.run (s, w) =
    match w.deliver e with
    | .ok w' => (.ok (), s, w')
    | .error fault => (.error (.log fault), s, w) := by
  rw [deliver, run_bind_ok run_workspace]
  cases w.deliver e <;> rfl

/-- To log an event raises nothing and leaves the sheet, whatever the log and the disk are. -/
lemma run_emit (e : Event) : (emit e).run.run (s, w) = (.ok (), s, w.emit e) := by
  have hdeliver := run_deliver (s := s) (w := w) e
  rw [Workspace.emit]
  cases hw : w.deliver e with
  | ok w' =>
    rw [hw] at hdeliver
    exact run_tryCatch_ok hdeliver
  | error fault =>
    rw [hw] at hdeliver
    exact run_tryCatch_error hdeliver

lemma run_tell_emit (e? : Option Event) :
    (tell emit e?).run.run (s, w) = (.ok (), s, w.emitAll e?) := by
  cases e? with
  | none => rfl
  | some e => exact run_emit e

/-! ### Calls answer alike -/

/-- An edit that tells its event on the way is the edit that tells it at the end. -/
lemma run_setContents (name contents : Datum) : (setContents emit name contents).run.run (s, w) =
    ((w.edit s name contents).1.mapError .edit, (w.edit s name contents).2) := by
  rw [setContents, run_bind_ok run_sheet, run_bind_ok run_workspace, Workspace.edit,
    Sheet.setContents]
  cases contents.text? with
  | none => rfl
  | some text =>
    cases s.checkName name with
    | error e => rfl
    | ok cell =>
      simp only
      cases Contents.ofText s.naming text with
      | error e => exact run_bind_ok (run_tell_emit _)
      | ok entered =>
        rw [run_bind_ok (run_putSheet _), run_bind_ok (run_tell_emit _), run_conclude]

/-- Without the guard, an edit that was done answers that its event could not be logged. -/
lemma run_setContents_deliver {name contents : Datum} {cell text : String} {entered : Contents}
    {e : Event} {fault : LogError} (htext : contents.text? = some text)
    (hcell : s.checkName name = .ok cell) (hentered : Contents.ofText s.naming text = .ok entered)
    (he : Event.ofEdit? w.clock cell text (s.commit cell entered).1 = some e)
    (hfault : w.deliver e = .error fault) : (setContents deliver name contents).run.run (s, w) =
      (.error (.log fault), (s.commit cell entered).2, w) := by
  have hdeliver : (deliver e).run.run ((s.commit cell entered).2, w) =
      (.error (.log fault), (s.commit cell entered).2, w) := by
    rw [run_deliver, hfault]
  rw [setContents, run_bind_ok run_sheet, run_bind_ok run_workspace]
  simp only [htext, hcell, hentered, he, tell]
  rw [run_bind_ok (run_putSheet _), run_bind_error hdeliver]

lemma run_call (c : Call) : ∃ w', (call emit c).run.run (s, w) =
    ((s.call c).1.mapError .edit, (s.call c).2, w') := by
  cases c with
  | query q => exact ⟨w, (run_bind_ok run_sheet).trans (run_conclude _)⟩
  | setContents name contents =>
    have hrun := run_setContents (s := s) (w := w) name contents
    cases hset : s.setContents name contents with
    | mk outcome edited =>
      simp only [Workspace.edit, hset] at hrun
      simp only [Sheet.call, hset]
      cases outcome with
      | ok order => exact ⟨_, run_bind_ok hrun⟩
      | error e => exact ⟨_, run_bind_error hrun⟩

/-- What is answered to calls, and the sheet that they leave, is what the sheet by itself answers
and becomes, whatever befalls the log and the disk before and between them. The edits among the
calls are those of a workspace, and to log an event never raises anything. -/
theorem session_unaffected (steps : List ((Workspace → Workspace) × Call)) (s : Sheet)
    (w : Workspace) :
    (∃ w', (session emit steps).run (s, w) =
      ((s.calls (steps.map Prod.snd)).1.map (Except.mapError .edit),
        (s.calls (steps.map Prod.snd)).2, w')) ∧
    (∀ (name contents : Datum) (s : Sheet) (w : Workspace),
      (setContents emit name contents).run.run (s, w) =
        ((w.edit s name contents).1.mapError .edit, (w.edit s name contents).2)) ∧
    ∀ (e : Event) (s : Sheet) (w : Workspace), (emit e).run.run (s, w) = (.ok (), s, w.emit e) := by
  refine ⟨?_, fun name contents s w => run_setContents name contents, fun e s w => run_emit e⟩
  induction steps generalizing s w with
  | nil => exact ⟨w, rfl⟩
  | cons step rest ih =>
    obtain ⟨change, c⟩ := step
    obtain ⟨next, hcall⟩ := run_call (s := s) (w := change w) c
    obtain ⟨last, hrest⟩ := ih (s.call c).2 next
    refine ⟨last, ?_⟩
    have hsession : (session emit ((change, c) :: rest)).run (s, w) =
        let (answer, state) := (call emit c).run.run (s, change w)
        let (answers, state) := (session emit rest).run state
        (answer :: answers, state) := rfl
    rw [hsession, hcall]
    simp only [hrest]
    rfl

end Use

end Recalc
