/-
What a session keeps when it refuses or fails.

An error of a session is a refusal if it came up before anything was run: the text has no
tokens, no program or no code, the code does not decode or does not pass the stack check, the
image cannot be read or holds too many slots.  A refusal changes nothing and writes nothing.
Any other error stopped a run half way; the session has the tables of the unit then, with
every category set to that of the value at hand.

* `Session.serve`: one request to a session, with the session and the output after it.
* `Session.execute_cases`: everything that the execution of a unit can come to.
* `Session.serve_atomic`: which errors leave everything as it was, and what the others leave.
* `Session.serve_restore`: which snapshots are restored, and what of a snapshot is found in
  the session then; a snapshot is read back from its image.

Design notes: name tables grow by declarations, and a session sets categories anew after a
failed run.  `NameTable.Declared` are the tables that come about in this way.
-/
import StackLang.Proofs.History
import StackLang.Proofs.StackSafety

namespace StackLang

/-! ### Name tables that were declared -/

/-- The tables that come about by declarations, and by setting categories. -/
inductive NameTable.Declared : NameTable → Prop where
  | empty : Declared {}
  | declare {names names' : NameTable} {name : String} {category : Category} {slot : UInt32}
      (before : Declared names) (entry : names.declare name category = some (slot, names')) :
      Declared names'
  | setCategory {names : NameTable} (before : Declared names) (slot : UInt32)
      (category : Category) : Declared (names.setCategory slot category)

theorem NameTable.Declared.regular {names : NameTable} (h : names.Declared) :
    names.Regular := by
  induction h with
  | empty => exact ⟨rfl, Nat.zero_le _⟩
  | declare _ entry ih => exact ih.declare entry
  | setCategory _ slot category ih =>
    refine ⟨?_, ih.addressable⟩
    rw [size_setCategory, ← ih.size_eq]
    exact Array.size_setIfInBounds

/-! ### Errors before a run -/

/-- The errors of code that was not run. -/
def RunError.isStatic : RunError → Bool
  | unknownOpcode _ _ | decode _ | stackCheck _ => true
  | _ => false

/-- The errors of a session that has not run anything. -/
def SessionError.isRefusal : SessionError → Bool
  | lex _ | diagnostics _ | image _ | imageCapacity _ _ => true
  | run e => e.isStatic
  | io _ => false

theorem RunError.isStatic_ofStackCheck (e : StackCheckError) :
    (RunError.ofStackCheck e).isStatic := by
  rcases e with (e | _ | _)
  · cases e <;> rfl
  · rfl
  · rfl

theorem RunError.not_isStatic_of_isDynamic {e : RunError} (h : e.isDynamic) :
    e.isStatic = false := by
  cases e with
  | unknownOpcode _ _ | decode _ | stackCheck _ => cases h
  | _ => rfl

namespace Session

variable {s : Session} {out : Sink}

/-- Everything that the execution of a unit can come to: it is refused and nothing is changed;
it succeeds; or it fails on the way, and the session takes over the tables of the unit with
the categories of what the slots hold. -/
theorem execute_cases (s : Session) (unit : CodeUnit) (out : Sink) :
    (∃ e : RunError, e.isStatic ∧ s.execute unit out = (.error (.run e), s, out)) ∨
      (∃ (top : Option Value) (m : Machine), s.execute unit out =
        (.ok top, { s with names := unit.names, constants := unit.constants, slots := m.slots },
          m.out)) ∨
      ∃ (e : RunError) (m : Machine), e.isDynamic ∧ s.execute unit out =
        (.error (.run e),
          { s with
            names := reconcile m.slots unit.names
            constants := unit.constants
            slots := m.slots },
          m.out) := by
  rw [execute]
  cases hcheck : stackCheck unit.code 0 s.config.stackCapacity with
  | error e =>
    have hrefused : Machine.check s.config unit = .error (.ofStackCheck e) := by
      rw [Machine.check, hcheck]
    rw [hrefused]
    exact .inl ⟨_, RunError.isStatic_ofStackCheck e, rfl⟩
  | ok height =>
    rw [Machine.check_eq_ok hcheck]
    dsimp only
    cases hrun : Machine.run s.config unit { slots := s.slots, out := out } with
    | ok top m => exact .inr (.inl ⟨top, m, rfl⟩)
    | error e m =>
      exact .inr (.inr ⟨e, m, Machine.isDynamic_of_run_eq_error hcheck hrun, rfl⟩)

/-- A unit that is refused changes nothing. -/
theorem execute_of_isRefusal {unit : CodeUnit} {e : SessionError}
    (h : (s.execute unit out).1 = .error e) (hrefusal : e.isRefusal) :
    (s.execute unit out).2 = (s, out) := by
  rcases execute_cases s unit out with
    ⟨e', -, hexecute⟩ | ⟨top, m, hexecute⟩ | ⟨e', m, hdynamic, hexecute⟩
  · rw [hexecute]
  · rw [hexecute] at h
    cases h
  · -- the run has begun, so the error is no refusal
    rw [hexecute] at h
    cases h
    have hstatic : e'.isStatic = true := hrefusal
    rw [RunError.not_isStatic_of_isDynamic hdynamic] at hstatic
    cases hstatic

theorem eval_of_isRefusal {source : String} {e : SessionError}
    (h : (s.eval source out).1 = .error e) (hrefusal : e.isRefusal) :
    (s.eval source out).2 = (s, out) := by
  rw [eval] at h ⊢
  cases hcompile : s.compile source with
  | error e' => rfl
  | ok unit =>
    rw [hcompile] at h
    exact execute_of_isRefusal h hrefusal

end Session

/-! ### Requests -/

/-- What can be asked of a session. -/
inductive Request where
  /-- Compiles a source text without running it. -/
  | compile (source : String)
  /-- Evaluates a source text. -/
  | eval (source : String)
  /-- Executes a unit, wherever it comes from. -/
  | execute (unit : CodeUnit)
  /-- Restores a snapshot. -/
  | restore (snapshot : Snapshot)
  /-- Reads a snapshot from bytes and restores it. -/
  | restoreImage (image : Bytes)

/-- What a session has done, if it did not fail. -/
inductive Reply where
  | compiled (unit : CodeUnit)
  /-- The code was carried out, with the topmost value that it left. -/
  | ended (top : Option Value)
  | restored
deriving DecidableEq

namespace Session

/-- The reply to a restoration, and the session and the output after it. -/
def afterRestoration (out : Sink) :
    EStateM.Result SessionError Session Unit → Except SessionError Reply × Session × Sink
  | .ok () s => (.ok .restored, s, out)
  | .error e s => (.error e, s, out)

/-- Serves a request: the reply, and the session and the output after it. -/
def serve (s : Session) (out : Sink) : Request → Except SessionError Reply × Session × Sink
  | .compile source => ((s.compile source).map .compiled, s, out)
  | .eval source =>
    let (result, s', out') := s.eval source out
    (result.map .ended, s', out')
  | .execute unit =>
    let (result, s', out') := s.execute unit out
    (result.map .ended, s', out')
  | .restore snapshot => afterRestoration out (s.restore snapshot)
  | .restoreImage image => afterRestoration out (World.restoreImage s image)

variable {s : Session} {out : Sink}

theorem error_of_map_eq_error {α β : Type} {r : Except SessionError α} {f : α → β}
    {e : SessionError} (h : r.map f = .error e) : r = .error e := by
  cases r with
  | ok a => cases h
  | error e' =>
    cases h
    rfl

theorem exists_eq_error_of_afterRestoration {r : EStateM.Result SessionError Session Unit}
    {e : SessionError} (h : (afterRestoration out r).1 = .error e) :
    ∃ s', r = .error e s' ∧ (afterRestoration out r).2 = (s', out) := by
  cases r with
  | ok _ s' => cases h
  | error e' s' =>
    cases h
    exact ⟨s', rfl, rfl⟩

/-- An image that is refused, be it that it cannot be read or that it does not fit, changes
nothing. -/
theorem eq_of_restoreImage_eq_error {image : Bytes} {e : SessionError} {s' : Session}
    (h : World.restoreImage s image = .error e s') : s' = s := by
  rw [World.restoreImage] at h
  cases hdecode : Snapshot.decode image with
  | ok snapshot =>
    rw [hdecode] at h
    exact (eq_of_restore_eq_error h).2
  | error e' =>
    rw [hdecode] at h
    cases h
    rfl

/-- A request that is refused changes nothing and writes nothing. -/
theorem serve_of_isRefusal {request : Request} {e : SessionError}
    (h : (s.serve out request).1 = .error e) (hrefusal : e.isRefusal) :
    (s.serve out request).2 = (s, out) := by
  cases request with
  | compile source => rfl
  | eval source => exact eval_of_isRefusal (error_of_map_eq_error h) hrefusal
  | execute unit => exact execute_of_isRefusal (error_of_map_eq_error h) hrefusal
  | restore snapshot =>
    obtain ⟨s', hrestore, hafter⟩ := exists_eq_error_of_afterRestoration h
    obtain ⟨-, rfl⟩ := eq_of_restore_eq_error hrestore
    exact hafter
  | restoreImage image =>
    obtain ⟨s', hrestore, hafter⟩ := exists_eq_error_of_afterRestoration h
    obtain rfl := eq_of_restoreImage_eq_error hrestore
    exact hafter

/-- What a run that fails leaves of the session. -/
theorem execute_of_not_isStatic {unit : CodeUnit} {e : RunError} (hnames : unit.names.Regular)
    (h : (s.execute unit out).1 = .error (.run e)) (hstatic : e.isStatic = false) :
    e.isDynamic ∧ (s.execute unit out).2.1.constants = unit.constants ∧
      (s.execute unit out).2.1.names.names = unit.names.names ∧
      (s.execute unit out).2.1.names.Tracks (s.execute unit out).2.1.slots := by
  rcases execute_cases s unit out with
    ⟨e', hstatic', hexecute⟩ | ⟨top, m, hexecute⟩ | ⟨e', m, hdynamic, hexecute⟩
  · rw [hexecute] at h
    cases h
    rw [hstatic] at hstatic'
    cases hstatic'
  · rw [hexecute] at h
    cases h
  · rw [hexecute] at h ⊢
    cases h
    exact ⟨hdynamic, rfl, names_reconcile m.slots unit.names,
      (tracks_reconcile hnames m.slots).1⟩

/-- **Errors are atomic by their kind.**  Compiling never changes the session.  A request that
is refused leaves the session and the output as they were.  Any other error of an execution is
one that only a run can have; the constants and the names are those of the unit then, and the
category of every name is that of the value that its slot holds. -/
theorem serve_atomic (s : Session) (out : Sink) :
    (∀ source, (s.serve out (.compile source)).2 = (s, out)) ∧
    (∀ request e, (s.serve out request).1 = .error e → e.isRefusal →
      (s.serve out request).2 = (s, out)) ∧
    ∀ unit e, unit.names.Declared → (s.serve out (.execute unit)).1 = .error (.run e) →
      e.isStatic = false →
      e.isDynamic ∧ (s.serve out (.execute unit)).2.1.constants = unit.constants ∧
        (s.serve out (.execute unit)).2.1.names.names = unit.names.names ∧
        (s.serve out (.execute unit)).2.1.names.Tracks
          (s.serve out (.execute unit)).2.1.slots := by
  refine ⟨fun source => rfl, ?_, ?_⟩
  · intro request e h hrefusal
    exact serve_of_isRefusal h hrefusal
  · intro unit e hnames h hstatic
    exact execute_of_not_isStatic hnames.regular (error_of_map_eq_error h) hstatic

end Session

/-- Stores a number in a variable that is recorded as a string, and then fails. -/
def CodeUnit.brokenStore : CodeUnit where
  code := assemble [.pushNumber ⟨0x3f800000⟩, .store 0, .pushNumber ⟨0⟩, .unary .not]
  names := ⟨#["x"], #[.string]⟩

namespace Session

/-- The broken store leaves the variable as the number it holds; a byte that is no opcode
leaves nothing. -/
theorem serve_brokenStore :
    ((new {}).serve {} (.execute .brokenStore)).1 =
        .error (.run (.typeMismatch 15 .not .boolean .number)) ∧
      ((new {}).serve {} (.execute .brokenStore)).2.1.names = ⟨#["x"], #[.float]⟩ ∧
      ((new {}).serve {} (.execute .brokenStore)).2.1.names.Tracks
        ((new {}).serve {} (.execute .brokenStore)).2.1.slots ∧
      ((new {}).serve {} (.execute { code := [26] })).1 =
        .error (.run (.unknownOpcode 26 0)) ∧
      ((new {}).serve {} (.execute { code := [26] })).2 = (new {}, {}) := by
  have hfails : ((new {}).serve {} (.execute .brokenStore)).1 =
      .error (.run (.typeMismatch 15 .not .boolean .number)) := by
    decide +kernel
  have hnames : ((new {}).serve {} (.execute .brokenStore)).2.1.names =
      ⟨#["x"], #[.float]⟩ := by
    decide +kernel
  have hrefused : ((new {}).serve {} (.execute { code := [26] })).1 =
      .error (.run (.unknownOpcode 26 0)) := by
    decide +kernel
  have hdeclared : CodeUnit.brokenStore.names.Declared :=
    .declare .empty (by decide +kernel : NameTable.declare {} "x" .string = some (0, _))
  obtain ⟨-, hrefusal, hfailure⟩ := serve_atomic (new {}) {}
  obtain ⟨-, -, -, htracks⟩ := hfailure _ _ hdeclared hfails rfl
  exact ⟨hfails, hnames, htracks, hrefused, hrefusal _ _ hrefused rfl⟩

/-! ### Snapshots -/

variable {s : Session} {out : Sink} {snapshot : Snapshot}

end Session

/-- Within both capacities, a slot reads the same under either. -/
theorem Slots.get?_of_lt {slots : Slots} {capacity : UInt64} {slot : UInt32}
    (h : slot.toNat < slots.capacity.toNat) (h' : slot.toNat < capacity.toNat) :
    Slots.get? { slots with capacity } slot = slots.get? slot := by
  simp [get?, inRange, h, h']

namespace Session

/-- **Snapshots come back.**  A snapshot is read back from its image, whatever follows it,
exactly if its lengths can be written, as those of all that is in memory can.  It is restored
exactly if its stored slots are within the capacity of the session.  The session has the names
with their categories and the constants of the snapshot then, and its own capacity; the slots
within both capacities read the same.  A snapshot that is not restored leaves the session as
it was. -/
theorem serve_restore (s : Session) (out : Sink) (snapshot : Snapshot) :
    (∀ rest, Snapshot.decode (snapshot.encode ++ rest) = .ok snapshot ↔ snapshot.Writable) ∧
    ((∃ reply, (s.serve out (.restore snapshot)).1 = .ok reply) ↔
      snapshot.slots.size ≤ s.slots.capacity.toNat) ∧
    (∀ reply s' out', s.serve out (.restore snapshot) = (.ok reply, s', out') →
      s'.names = snapshot.names ∧ s'.constants = snapshot.constants ∧
        s'.slots.capacity = s.slots.capacity ∧
        ∀ slot : UInt32, slot.toNat < s.slots.capacity.toNat →
          slot.toNat < snapshot.slots.capacity.toNat →
          s'.slots.get? slot = snapshot.slots.get? slot) ∧
    ∀ e s' out', s.serve out (.restore snapshot) = (.error e, s', out') →
      e = .imageCapacity snapshot.slots.size s.slots.capacity ∧ s' = s := by
  refine ⟨fun rest => Snapshot.decode_encode_append_iff, ?_⟩
  rw [serve]
  by_cases hle : snapshot.slots.size ≤ s.slots.capacity.toNat
  · rw [restore_of_le hle]
    refine ⟨iff_of_true ⟨_, rfl⟩ hle, ?_, ?_⟩
    · rintro reply s' out' ⟨⟩
      exact ⟨rfl, rfl, rfl, fun slot hslot hslot' => Slots.get?_of_lt hslot' hslot⟩
    · rintro e s' out' ⟨⟩
  · rw [restore_of_lt (Nat.not_le.mp hle)]
    refine ⟨iff_of_false (fun ⟨reply, hreply⟩ => by cases hreply) hle, ?_, ?_⟩
    · rintro reply s' out' ⟨⟩
    · rintro e s' out' ⟨⟩
      exact ⟨rfl, rfl⟩

end Session

/-- A number that is none and a variable that was never stored to, in slots with room for
eight; a name and a constant outside of ASCII. -/
def Snapshot.mixed : Snapshot where
  names := ⟨#["x", "é"], #[.float, .unknown]⟩
  constants := ⟨#[.string "π"]⟩
  slots := ⟨#[.number ⟨0x7fc00001⟩, .empty], 8⟩

/-- The mixed snapshot is read back in front of other bytes.  A session with room for two
slots restores it, and one with room for one slot does not. -/
theorem Session.serve_restore_mixed :
    Snapshot.decode (Snapshot.mixed.encode ++ [255]) = .ok .mixed ∧
      ((new { slotCapacity := 2 }).serve {} (.restore .mixed)).1 = .ok .restored ∧
      ((new { slotCapacity := 2 }).serve {} (.restore .mixed)).2.1.slots.get? 0 =
        some (.number ⟨0x7fc00001⟩) ∧
      ((new { slotCapacity := 1 }).serve {} (.restore .mixed)).1 =
        .error (.imageCapacity 2 1) := by
  obtain ⟨hread, hiff, hrestored, -⟩ := serve_restore (new { slotCapacity := 2 }) {} .mixed
  obtain ⟨-, -, -, hrefused⟩ := serve_restore (new { slotCapacity := 1 }) {} .mixed
  have hwritable : Snapshot.mixed.Writable := (hread []).mp (by decide +kernel)
  obtain ⟨-, -, -, hslots⟩ := hrestored .restored _ _ rfl
  refine ⟨(hread [255]).mpr hwritable, rfl, ?_, ?_⟩
  · exact (hslots 0 (by decide) (by decide)).trans (by decide +kernel)
  · exact congrArg Except.error (hrefused _ _ _ rfl).1

end StackLang
