/-
Output that takes everything.

On such an output nothing depends on what was written before: a computation appends its bytes
to it and comes to the same otherwise, and nothing on the console fails.

* `Sink.taking`: the output that takes everything, with what was written to it.
* `Machine.Appends`: a computation of the machine appends the same bytes to whatever there is.
  What instructions are put together from does (`Machine.composes_appends`), so a run does.
* `Session.eval_taking`: so does the evaluation of an input, and the session after it does not
  depend on the output.
* `Console.Prints`: a computation of the console writes the same bytes whatever there is, and
  leaves the session alone.
* `Console.once_of_evaluates`, `Console.once_of_not_evaluates`: what an input does to the console
  in a mode that runs it, and in one that only shows it.
-/
import Mathlib.Tactic.Common
import StackLang.Console
import StackLang.Proofs.Runs

namespace StackLang

namespace Sink

/-- The output that takes everything, with the bytes written so far. -/
def taking (written : Array UInt8) : Sink :=
  ⟨written, none⟩

/-- To write twice is to write both at once. -/
theorem append_append (written : Array UInt8) (bytes bytes' : Bytes) :
    written ++ bytes ++ bytes' = written ++ (bytes ++ bytes') := by
  apply Array.ext'
  simp only [Array.toList_appendList, List.append_assoc]

theorem append_toArray (written : Array UInt8) (bytes : Bytes) :
    written ++ bytes.toArray = written ++ bytes := by
  apply Array.ext'
  rw [Array.toList_append, Array.toList_appendList]

end Sink

/-! ### Runs -/

namespace Machine

section

variable {α β : Type}

/-- The machine with an output that takes everything. -/
def writing (m : Machine) (written : Array UInt8) : Machine :=
  { m with out := .taking written }

/-- The result with an output that takes everything. -/
def resultWriting (written : Array UInt8) :
    EStateM.Result RunError Machine α → EStateM.Result RunError Machine α
  | .ok a m => .ok a (m.writing written)
  | .error e m => .error e (m.writing written)

/-- Whatever was written before, the computation appends the same bytes to it, and comes to
the same otherwise. -/
def Appends (x : Exec α) : Prop :=
  ∀ m : Machine, ∃ r bytes, ∀ written,
    x (m.writing written) = resultWriting (written ++ (bytes : Bytes)) r

/-- A computation that does not see the output appends nothing to it. -/
theorem appends_of_silent {x : Exec α}
    (h : ∀ (m : Machine) written, x (m.writing written) = resultWriting written (x m)) :
    Appends x := by
  intro m
  refine ⟨x m, [], fun written => ?_⟩
  rw [h m written, Array.appendList_nil]

theorem Appends.bind {x : Exec α} {f : α → Exec β} (hx : Appends x)
    (hf : ∀ a, Appends (f a)) : Appends (x >>= f) := by
  intro m
  obtain ⟨r, bytes, hr⟩ := hx m
  change ∃ r' bytes', ∀ written, EStateM.bind x f (m.writing written) = _
  cases r with
  | ok a m₁ =>
    -- the second part appends behind what the first part has written
    obtain ⟨r', bytes', hr'⟩ := hf a m₁
    refine ⟨r', bytes ++ bytes', fun written => ?_⟩
    have hfirst : x (m.writing written) = .ok a (m₁.writing (written ++ bytes)) := hr written
    rw [EStateM.bind, hfirst]
    change f a (m₁.writing (written ++ bytes)) = _
    rw [hr', Sink.append_append]
  | error e m₁ =>
    refine ⟨.error e m₁, bytes, fun written => ?_⟩
    have hfirst : x (m.writing written) = .error e (m₁.writing (written ++ bytes)) := hr written
    rw [EStateM.bind, hfirst]
    rfl

theorem appends_push (config : Config) (offset : Nat) (value : Value) :
    Appends (push config offset value) := by
  refine appends_of_silent fun m written => ?_
  rw [push, push]
  by_cases hroom : m.stack.length < config.stackCapacity
  · rw [if_pos hroom, if_pos (show (m.writing written).stack.length < _ from hroom)]
    rfl
  · rw [if_neg hroom, if_neg (show ¬ (m.writing written).stack.length < _ from hroom)]
    rfl

theorem appends_pop (offset : Nat) : Appends (pop offset) := by
  refine appends_of_silent ?_
  rintro ⟨stack, slots, out⟩ written
  cases stack with
  | nil => rfl
  | cons value rest => rfl

theorem appends_fetch (offset : Nat) (slot : UInt32) : Appends (fetch offset slot) := by
  refine appends_of_silent fun m written => ?_
  have hslots : (m.writing written).slots = m.slots := rfl
  rw [fetch, fetch, hslots]
  cases m.slots.get? slot with
  | none => rfl
  | some value => rfl

theorem appends_assign (offset : Nat) (slot : UInt32) (value : Value) :
    Appends (assign offset slot value) := by
  refine appends_of_silent fun m written => ?_
  have hslots : (m.writing written).slots = m.slots := rfl
  rw [assign, assign, hslots]
  cases m.slots.set slot value with
  | error value slots => rfl
  | ok _ slots => rfl

/-- Only what is printed is written. -/
theorem composes_appends : Composes fun _ x => Appends x where
  pure _ := appends_of_silent fun _ _ => rfl
  throw _ := appends_of_silent fun _ _ => rfl
  bind hx hf := hx.bind hf
  push := appends_push
  pop := appends_pop
  fetch := appends_fetch
  write value m := ⟨.ok () m, Text.utf8 (value.text ++ "\n"), fun _ => rfl⟩
  reset := appends_of_silent fun _ _ => rfl
  top := appends_of_silent fun _ _ => rfl

theorem appends_run (config : Config) (unit : CodeUnit) : Appends (run config unit) :=
  composes_appends.run (fun slot _ offset value => appends_assign offset slot value) config

end

end Machine

/-! ### Sessions -/

namespace Session

theorem execute_taking (s : Session) (unit : CodeUnit) :
    ∃ result s' bytes, ∀ written, s.execute unit (.taking written) =
      (result, s', .taking (written ++ (bytes : Bytes))) := by
  cases hcheck : Machine.check s.config unit with
  | error e =>
    refine ⟨.error (.run e), s, [], fun written => ?_⟩
    rw [execute, hcheck, Array.appendList_nil]
  | ok _ =>
    obtain ⟨r, bytes, hr⟩ := Machine.appends_run s.config unit { slots := s.slots }
    have hrun : ∀ written, Machine.run s.config unit { slots := s.slots, out := .taking written } =
      Machine.resultWriting (written ++ bytes) r := hr
    cases r with
    | ok top m =>
      refine ⟨.ok top,
        { s with names := unit.names, constants := unit.constants, slots := m.slots }, bytes,
        fun written => ?_⟩
      rw [execute, hcheck, hrun]
      rfl
    | error e m =>
      refine ⟨.error (.run e),
        { s with
          names := reconcile m.slots unit.names
          constants := unit.constants
          slots := m.slots }, bytes, fun written => ?_⟩
      rw [execute, hcheck, hrun]
      rfl

/-- The result of an input and the session after it do not depend on what was written before,
and what it writes comes behind that. -/
theorem eval_taking (s : Session) (source : String) :
    ∃ result s' bytes, ∀ written, s.eval source (.taking written) =
      (result, s', .taking (written ++ (bytes : Bytes))) := by
  cases hcompile : s.compile source with
  | error e =>
    refine ⟨.error e, s, [], fun written => ?_⟩
    rw [eval, hcompile, Array.appendList_nil]
  | ok unit =>
    obtain ⟨result, s', bytes, hexecute⟩ := s.execute_taking unit
    refine ⟨result, s', bytes, fun written => ?_⟩
    rw [eval, hcompile]
    exact hexecute written

end Session

/-! ### The console -/

namespace Console

/-- The computation writes the same bytes behind whatever there is, does not fail, and leaves
the session alone. -/
def Prints (x : Interact Unit) : Prop :=
  ∃ bytes : Bytes, ∀ session written,
    x ⟨session, .taking written⟩ = .ok () ⟨session, .taking (written ++ bytes)⟩

theorem prints_pure : Prints (pure ()) := by
  refine ⟨[], fun session written => ?_⟩
  rw [Array.appendList_nil]
  rfl

theorem prints_write (text : String) : Prints (write text) :=
  ⟨Text.utf8 text, fun _ _ => rfl⟩

theorem prints_writeLine (text : String) : Prints (writeLine text) :=
  prints_write (text ++ "\n")

theorem Prints.bind {x : Interact Unit} {f : Unit → Interact Unit} (hx : Prints x)
    (hf : Prints (f ())) : Prints (x >>= f) := by
  obtain ⟨bytes, hbytes⟩ := hx
  obtain ⟨bytes', hbytes'⟩ := hf
  refine ⟨bytes ++ bytes', fun session written => ?_⟩
  change EStateM.bind x f _ = _
  rw [EStateM.bind, hbytes]
  change f () _ = _
  rw [hbytes', Sink.append_append]

theorem prints_forM {α : Type} {f : α → Interact Unit} (hf : ∀ a, Prints (f a))
    (items : List α) : Prints (items.forM f) := by
  induction items with
  | nil => exact prints_pure
  | cons item items ih => exact (hf item).bind ih

theorem prints_report (e : SessionError) : Prints (report e) := by
  cases e with
  | diagnostics errors =>
    exact (prints_writeLine _).bind (prints_forM (fun e => prints_writeLine _) errors)
  | lex _ | run _ | image _ | imageCapacity _ _ | io _ => exact prints_writeLine _

theorem prints_showProgram (tokens : List Located) : Prints (showProgram tokens) := by
  refine (prints_writeLine _).bind ?_
  split
  · exact prints_report _
  · exact prints_pure

theorem prints_showUnit (unit : CodeUnit) : Prints (showUnit unit) := by
  rw [showUnit]
  split
  -- the tables follow, whatever the listing is
  all_goals
    refine Prints.bind ?_ ((prints_writeLine _).bind
      ((prints_forM (fun _ => prints_writeLine _) _).bind
        ((prints_writeLine _).bind (prints_forM (fun _ => prints_writeLine _) _))))
  · exact prints_write _
  · exact prints_writeLine _

theorem prints_withTokens {act : List Located → Interact Unit} (hact : ∀ ts, Prints (act ts))
    (source : String) : Prints (withTokens source act) := by
  rw [withTokens]
  split
  · exact hact _
  · exact prints_report _

end Console

/-- The input is run. -/
def Mode.evaluates : Mode → Bool
  | repl | vm => true
  | lexer | parser | compiler => false

namespace Console

theorem get_bind (f : Console → Interact Unit) (c : Console) : (get >>= f) c = f c c :=
  rfl

/-- An input that is only shown writes something and leaves the session alone. -/
theorem once_of_not_evaluates {mode : Mode} (h : mode.evaluates = false) (style : DumpStyle)
    (source : String) (session : Session) :
    ∃ bytes : Bytes, ∀ written, once mode style source ⟨session, .taking written⟩ =
      .ok () ⟨session, .taking (written ++ bytes)⟩ := by
  cases mode with
  | lexer =>
    obtain ⟨bytes, hbytes⟩ := prints_withTokens (prints_forM fun _ => prints_write _) source
    exact ⟨bytes, hbytes session⟩
  | parser =>
    obtain ⟨bytes, hbytes⟩ := prints_withTokens prints_showProgram source
    exact ⟨bytes, hbytes session⟩
  | compiler =>
    -- what is shown depends on the tables of the session
    cases hcompile : session.compile source with
    | ok unit =>
      obtain ⟨bytes, hbytes⟩ := prints_showUnit unit
      refine ⟨bytes, fun written => ?_⟩
      rw [once, get_bind, hcompile]
      exact hbytes session written
    | error e =>
      obtain ⟨bytes, hbytes⟩ := prints_report e
      refine ⟨bytes, fun written => ?_⟩
      rw [once, get_bind, hcompile]
      exact hbytes session written
  | repl | vm => cases h

/-- A computation that goes on behind an evaluation sees its result only. -/
theorem eval_bind_taking {source : String} {session s' : Session} {bytes : Bytes}
    {result : Except SessionError (Option Value)}
    (heval : ∀ written, session.eval source (.taking written) =
      (result, s', .taking (written ++ bytes)))
    {f : Except SessionError (Option Value) → Interact Unit} (hf : Prints (f result)) :
    ∃ bytes' : Bytes, ∀ written, (eval source >>= f) ⟨session, .taking written⟩ =
      .ok () ⟨s', .taking (written ++ bytes')⟩ := by
  obtain ⟨bytes', hbytes'⟩ := hf
  refine ⟨bytes ++ bytes', fun written => ?_⟩
  have hstep : eval source ⟨session, .taking written⟩ =
      .ok result ⟨s', .taking (written ++ bytes)⟩ := by
    rw [eval, heval]
  change EStateM.bind (eval source) f _ = _
  rw [EStateM.bind, hstep]
  change f result _ = _
  rw [hbytes', Sink.append_append]

/-- An input that is run changes the session as its evaluation does. -/
theorem once_of_evaluates {mode : Mode} (h : mode.evaluates = true) (style : DumpStyle)
    (source : String) (session : Session) :
    ∃ bytes : Bytes, ∀ written, once mode style source ⟨session, .taking written⟩ =
      .ok () ⟨(session.eval source {}).2.1, .taking (written ++ bytes)⟩ := by
  obtain ⟨result, s', bytes, heval⟩ := session.eval_taking source
  have hs' : (session.eval source {}).2.1 = s' := congrArg (·.2.1) (heval #[])
  rw [hs']
  cases mode with
  | repl =>
    refine eval_bind_taking heval ?_
    split
    · exact prints_pure
    · exact prints_report _
  | vm =>
    refine eval_bind_taking heval ?_
    split
    · exact prints_writeLine _
    · exact prints_pure
    · exact prints_report _
  | lexer | parser | compiler => cases h

end Console

end StackLang
