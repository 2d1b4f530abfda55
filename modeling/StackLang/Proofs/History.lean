/-
Histories of sessions.

A history is a list of operations on any number of sessions: a session is started, evaluates
an input, compiles one, is stored as a snapshot, or takes over a snapshot of its own or of
another session, as it is or by way of its image.

* `World`: the sessions, and the snapshots taken of them so far.
* `World.perform`, `World.run`: what one operation and what a history does, with the answers.
* `World.Sound`: all sessions and all snapshots are consistent; `World.sound_perform` is the
  step and `World.sound_run` the induction over a history.
* `World.run_tracks_and_expected`: at every point of every history, what is known of each
  variable is the category of its value, and no input has led to an unexpected error.

Design notes: sessions and snapshots are named by their position.  An operation that names
none changes nothing.
-/
import StackLang.Proofs.Image
import StackLang.Proofs.Soundness

namespace StackLang

/-- One operation of a history. -/
inductive Operation where
  /-- Starts a session. -/
  | start (config : Config)
  /-- Evaluates an input. -/
  | eval (session : Nat) (source : String) (out : Sink)
  /-- Compiles an input without running it. -/
  | compile (session : Nat) (source : String)
  /-- Takes a snapshot. -/
  | snapshot (session : Nat)
  /-- Restores a snapshot. -/
  | restore (session snapshot : Nat)
  /-- Restores a snapshot from its image. -/
  | restoreImage (session snapshot : Nat)
deriving DecidableEq

/-- The answer to an operation. -/
inductive Answer where
  /-- The operation was carried out and has no result of its own. -/
  | done
  | evaluated (result : Except SessionError (Option Value)) (out : Sink)
  | compiled (result : Except SessionError CodeUnit)
  /-- A snapshot was not restored. -/
  | refused (error : SessionError)
  /-- There is no such session or snapshot. -/
  | missing
deriving DecidableEq

/-- Sessions side by side, and the snapshots taken of them. -/
structure World where
  sessions : List Session := []
  snapshots : List Snapshot := []

namespace World

/-- Puts a session in its place after a restoration. -/
def restored (w : World) (position : Nat) :
    EStateM.Result SessionError Session Unit → World × Answer
  | .ok () s => ({ w with sessions := w.sessions.set position s }, .done)
  | .error e s => ({ w with sessions := w.sessions.set position s }, .refused e)

/-- Reads a snapshot from its image and restores it. -/
def restoreImage (s : Session) (image : Bytes) : EStateM.Result SessionError Session Unit :=
  match Snapshot.decode image with
  | .ok snapshot => s.restore snapshot
  | .error e => .error (.image e) s

/-- Carries out an operation. -/
def perform (w : World) : Operation → World × Answer
  | .start config => ({ w with sessions := w.sessions ++ [.new config] }, .done)
  | .eval i source out =>
    match w.sessions[i]? with
    | some s =>
      let (result, s', out') := s.eval source out
      ({ w with sessions := w.sessions.set i s' }, .evaluated result out')
    | none => (w, .missing)
  | .compile i source =>
    match w.sessions[i]? with
    | some s => (w, .compiled (s.compile source))
    | none => (w, .missing)
  | .snapshot i =>
    match w.sessions[i]? with
    | some s => ({ w with snapshots := w.snapshots ++ [s.snapshot] }, .done)
    | none => (w, .missing)
  | .restore i k =>
    match w.sessions[i]?, w.snapshots[k]? with
    | some s, some snapshot => w.restored i (s.restore snapshot)
    | _, _ => (w, .missing)
  | .restoreImage i k =>
    match w.sessions[i]?, w.snapshots[k]? with
    | some s, some snapshot => w.restored i (restoreImage s snapshot.encode)
    | _, _ => (w, .missing)

/-- Carries out operations one after the other, and collects the answers. -/
def run (w : World) : List Operation → World × List Answer
  | [] => (w, [])
  | operation :: history =>
    let (w', answer) := w.perform operation
    let (w'', answers) := run w' history
    (w'', answer :: answers)

/-! ### Every history is sound -/

/-- All sessions and all snapshots are consistent. -/
structure Sound (w : World) : Prop where
  sessions : ∀ s ∈ w.sessions, Consistent s.names s.slots
  snapshots : ∀ snapshot ∈ w.snapshots, Consistent snapshot.names snapshot.slots

theorem sound_empty : Sound {} :=
  ⟨fun _ h => absurd h List.not_mem_nil, fun _ h => absurd h List.not_mem_nil⟩

theorem Sound.set {w : World} {s : Session} (h : w.Sound) (hs : Consistent s.names s.slots)
    (position : Nat) : Sound { w with sessions := w.sessions.set position s } where
  sessions := by
    intro s' hs'
    rcases List.mem_or_eq_of_mem_set hs' with hmem | rfl
    · exact h.sessions s' hmem
    · exact hs
  snapshots := h.snapshots

theorem Sound.restored {w : World} {s : Session} {snapshot : Snapshot} (h : w.Sound)
    (hs : Consistent s.names s.slots) (hsnapshot : Consistent snapshot.names snapshot.slots)
    (position : Nat) : (w.restored position (s.restore snapshot)).1.Sound := by
  cases hrestore : s.restore snapshot with
  | ok _ s' => exact h.set (Session.consistent_restore hsnapshot hrestore) position
  | error e s' =>
    obtain ⟨-, rfl⟩ := Session.eq_of_restore_eq_error hrestore
    exact h.set hs position

/-- By way of its image a snapshot is restored as it is, or not at all. -/
theorem restoreImage_cases (s : Session) (snapshot : Snapshot) :
    restoreImage s snapshot.encode = s.restore snapshot ∨
      ∃ e, restoreImage s snapshot.encode = .error (.image e) s := by
  rw [restoreImage]
  cases hdecode : Snapshot.decode snapshot.encode with
  | ok snapshot' =>
    rw [Snapshot.eq_of_decode_encode hdecode]
    exact .inl rfl
  | error e => exact .inr ⟨e, rfl⟩

theorem restored_ne_evaluated {w : World} {position : Nat}
    {r : EStateM.Result SessionError Session Unit}
    {result : Except SessionError (Option Value)} {out : Sink} :
    (w.restored position r).2 ≠ .evaluated result out := by
  intro h
  cases r with
  | ok _ s => cases h
  | error e s => cases h

/-- One operation keeps a sound world sound. -/
theorem sound_perform {w : World} (h : w.Sound) (operation : Operation) :
    (w.perform operation).1.Sound := by
  cases operation with
  | start config =>
    refine ⟨fun s hs => ?_, h.snapshots⟩
    rcases List.mem_append.mp hs with hmem | hnew
    · exact h.sessions s hmem
    · rw [List.mem_singleton.mp hnew]
      exact Session.consistent_new config
  | eval i source out =>
    rw [perform]
    split
    · rename_i s hs
      have hsession := h.sessions s (List.mem_of_getElem? hs)
      exact h.set (Session.consistent_eval source out hsession).1 i
    · exact h
  | compile i source =>
    rw [perform]
    split
    · exact h
    · exact h
  | snapshot i =>
    rw [perform]
    split
    · rename_i s hs
      refine ⟨h.sessions, fun snapshot hsnapshot => ?_⟩
      rcases List.mem_append.mp hsnapshot with hmem | hnew
      · exact h.snapshots snapshot hmem
      · rw [List.mem_singleton.mp hnew]
        exact h.sessions s (List.mem_of_getElem? hs)
    · exact h
  | restore i k =>
    rw [perform]
    split
    · rename_i s snapshot hs hsnapshot
      exact h.restored (h.sessions s (List.mem_of_getElem? hs))
        (h.snapshots snapshot (List.mem_of_getElem? hsnapshot)) i
    · exact h
  | restoreImage i k =>
    rw [perform]
    split
    · rename_i s snapshot hs hsnapshot
      have hsession := h.sessions s (List.mem_of_getElem? hs)
      rcases restoreImage_cases s snapshot with himage | ⟨e, himage⟩
      · rw [himage]
        exact h.restored hsession (h.snapshots snapshot (List.mem_of_getElem? hsnapshot)) i
      · rw [himage]
        exact h.set hsession i
    · exact h

/-- In a sound world no operation is answered by an unexpected error of a run. -/
theorem expected_perform {w : World} (h : w.Sound) {operation : Operation} {e : RunError}
    {out : Sink} (hanswer : (w.perform operation).2 = .evaluated (.error (.run e)) out) :
    e.isExpected := by
  cases operation with
  | eval i source out' =>
    -- the only operation that runs anything
    rw [perform] at hanswer
    split at hanswer
    · rename_i s hs
      injection hanswer with hresult
      have hsession := h.sessions s (List.mem_of_getElem? hs)
      exact (Session.consistent_eval source out' hsession).2 e hresult
    · cases hanswer
  | start config => cases hanswer
  | compile i source | snapshot i =>
    rw [perform] at hanswer
    split at hanswer
    · cases hanswer
    · cases hanswer
  | restore i k | restoreImage i k =>
    rw [perform] at hanswer
    split at hanswer
    · exact absurd hanswer restored_ne_evaluated
    · cases hanswer

/-- A history keeps a sound world sound, and none of its answers is an unexpected error of a
run. -/
theorem sound_run {w : World} (h : w.Sound) (history : List Operation) :
    (w.run history).1.Sound ∧
      ∀ e out, .evaluated (.error (.run e)) out ∈ (w.run history).2 → e.isExpected := by
  induction history generalizing w with
  | nil => exact ⟨h, fun _ _ hmem => absurd hmem List.not_mem_nil⟩
  | cons operation history ih =>
    obtain ⟨hsound, hexpected⟩ := ih (sound_perform h operation)
    refine ⟨hsound, ?_⟩
    intro e out hmem
    -- the answer to the first operation, or one to the others
    rcases List.mem_cons.mp hmem with hfirst | hrest
    · exact expected_perform h hfirst.symm
    · exact hexpected e out hrest

/-- After every history that starts from nothing, what is known of each variable of each
session is the category of the value it holds, and no input has been answered by an error of
a run other than a division by zero, a slot beyond the capacity, a failed output, the step
limit, or a stack that would grow too large. -/
theorem run_tracks_and_expected (history : List Operation) :
    (∀ s ∈ (run {} history).1.sessions, s.names.Tracks s.slots) ∧
      ∀ e out, .evaluated (.error (.run e)) out ∈ (run {} history).2 → e.isExpected := by
  obtain ⟨hsound, hexpected⟩ := sound_run sound_empty history
  refine ⟨?_, hexpected⟩
  intro s hs
  exact (hsound.sessions s hs).tracks

/-- A variable changes its type, and then a declaration fails between its two effects.  A
second session with less capacity takes all this over by way of an image. -/
def brokenDeclaration : List Operation :=
  [.start {}, .start { slotCapacity := 4 }, .eval 0 "var x = true" {},
    .eval 0 "var x = 1 var y = x / 0" {}, .snapshot 0, .restoreImage 1 0]

theorem tracks_brokenDeclaration :
    (run {} brokenDeclaration).1.sessions.map (·.names) =
        [⟨#["x", "y"], #[.float, .unknown]⟩, ⟨#["x", "y"], #[.float, .unknown]⟩] ∧
      (∀ s ∈ (run {} brokenDeclaration).1.sessions, s.names.Tracks s.slots) ∧
      (RunError.divisionByZero 20).isExpected := by
  have hnames : (run {} brokenDeclaration).1.sessions.map (·.names) =
      [⟨#["x", "y"], #[.float, .unknown]⟩, ⟨#["x", "y"], #[.float, .unknown]⟩] := by
    decide +kernel
  have hanswer : .evaluated (.error (.run (.divisionByZero 20))) {} ∈
      (run {} brokenDeclaration).2 := by
    decide +kernel
  obtain ⟨htracks, hexpected⟩ := run_tracks_and_expected brokenDeclaration
  exact ⟨hnames, htracks, hexpected _ _ hanswer⟩

end World

end StackLang
